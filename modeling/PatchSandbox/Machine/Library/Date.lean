import PatchSandbox.Machine.Library.Member

/-!
# Dates

`Date` and its prototype. A date is a number of milliseconds; its parts are those of the
Gregorian calendar, and the local time is that of Greenwich.
-/

namespace PatchSandbox.Machine.Library

open PatchSandbox.Text (CodeUnits)

/-! ### The calendar -/

/-- Milliseconds of a day. -/
def dayLength : Int := 86400000

/-- The number of days from the first day of 1970 to a day of the calendar; months count from
zero. -/
def daysFromCivil (year month : Int) (day : Int) : Int :=
  let year := year + month.fdiv 12
  let month := month.fmod 12
  -- years begin in March, so that the odd day is the last one
  let y := if month < 2 then year - 1 else year
  let m := if month < 2 then month + 10 else month - 2
  let era := y.fdiv 400
  let yoe := y - era * 400
  let doy := (153 * m + 2) / 5
  let doe := yoe * 365 + yoe / 4 - yoe / 100 + doy
  era * 146097 + doe - 719468 + (day - 1)

/-- The parts of a point in time. -/
structure Civil where
  year : Int
  /-- From zero on. -/
  month : Int
  day : Int
  hour : Int
  minute : Int
  second : Int
  millisecond : Int
  weekday : Int
  deriving Inhabited

/-- The parts of a number of milliseconds. -/
def Civil.ofMillis (t : Int) : Civil :=
  let days := t.fdiv dayLength
  let ms := t.fmod dayLength
  let z := days + 719468
  let era := z.fdiv 146097
  let doe := z - era * 146097
  let yoe := (doe - doe / 1460 + doe / 36524 - doe / 146096) / 365
  let doy := doe - (365 * yoe + yoe / 4 - yoe / 100)
  let mp := (5 * doy + 2) / 153
  let day := doy - (153 * mp + 2) / 5 + 1
  let month := if mp < 10 then mp + 2 else mp - 10
  let year := yoe + era * 400 + (if month < 2 then 1 else 0)
  ⟨year, month, day, ms / 3600000, ms / 60000 % 60, ms / 1000 % 60, ms % 1000,
    (days + 4).fmod 7⟩

/-- Number of milliseconds of parts that may be out of their ranges. -/
def Civil.toMillis (c : Civil) : Int :=
  daysFromCivil c.year c.month c.day * dayLength + c.hour * 3600000 + c.minute * 60000 +
    c.second * 1000 + c.millisecond

/-- The time value of a number of milliseconds, unless it is out of range. -/
def timeClip (x : Float) : Float :=
  if !x.isFinite || x.abs > 8640000000000000 then notANumber else truncated x + 0

/-- The time value of parts; none if one is no number. -/
def timeOfParts (parts : List Float) : Float :=
  if parts.any fun x => !x.isFinite || x.abs > 1e15 then notANumber
  else
    let part (i : Nat) (otherwise : Int) : Int := (parts[i]?).elim otherwise wholePart
    let year := part 0 1970
    let year := if 0 ≤ year && year ≤ 99 then 1900 + year else year
    timeClip (Float.ofInt (Civil.toMillis
      ⟨year, part 1 0, part 2 1, part 3 0, part 4 0, part 5 0, part 6 0, 0⟩))

/-! ### Texts -/

/-- A whole number with at least `n` digits. -/
def padded (n : Nat) (x : Int) : String :=
  let digits := toString x.natAbs
  (if x < 0 then "-" else "") ++ "".pushn '0' (n - digits.length) ++ digits

/-- Names of days. -/
def dayNames : List String := ["Sun", "Mon", "Tue", "Wed", "Thu", "Fri", "Sat"]

/-- Names of months. -/
def monthNames : List String :=
  ["Jan", "Feb", "Mar", "Apr", "May", "Jun", "Jul", "Aug", "Sep", "Oct", "Nov", "Dec"]

namespace Civil

/-- The name of the day of the week. -/
def dayName (c : Civil) : String := dayNames.getD c.weekday.toNat ""

/-- The name of the month. -/
def monthName (c : Civil) : String := monthNames.getD c.month.toNat ""

/-- The time of the day. -/
def clockText (c : Civil) : String :=
  padded 2 c.hour ++ ":" ++ padded 2 c.minute ++ ":" ++ padded 2 c.second

/-- The year; one before the year zero has a sign and six digits. -/
def yearText (c : Civil) : String := if c.year < 0 then padded 6 c.year else padded 4 c.year

/-- The form for interchange. -/
def isoText (c : Civil) : String :=
  let year :=
    if 0 ≤ c.year && c.year ≤ 9999 then padded 4 c.year
    else (if c.year < 0 then "-" else "+") ++ padded 6 c.year.natAbs
  year ++ "-" ++ padded 2 (c.month + 1) ++ "-" ++ padded 2 c.day ++ "T" ++ c.clockText ++ "." ++
    padded 3 c.millisecond ++ "Z"

/-- The day, in words. -/
def dateText (c : Civil) : String :=
  c.dayName ++ " " ++ c.monthName ++ " " ++ padded 2 c.day ++ " " ++ c.yearText

/-- The time, with its zone. -/
def timeText (c : Civil) : String := c.clockText ++ " GMT+0000"

/-- The form of mail and web. -/
def utcText (c : Civil) : String :=
  c.dayName ++ ", " ++ padded 2 c.day ++ " " ++ c.monthName ++ " " ++ c.yearText ++ " " ++
    c.clockText ++ " GMT"

/-- The day, in numbers. -/
def localDate (c : Civil) : String :=
  padded 2 (c.month + 1) ++ "/" ++ padded 2 c.day ++ "/" ++ c.yearText

/-- The time, in halves of a day. -/
def localTime (c : Civil) : String :=
  let hour := (c.hour + 11) % 12 + 1
  padded 2 hour ++ ":" ++ padded 2 c.minute ++ ":" ++ padded 2 c.second ++ " " ++
    (if c.hour < 12 then "AM" else "PM")

end Civil

/-! ### Reading -/

/-- Takes digits: their value and how many there were. -/
def takeDigits (cs : List Char) : Nat × Nat × List Char :=
  let own := cs.takeWhile Char.isDigit
  (own.foldl (fun n c => n * 10 + (c.toNat - 48)) 0, own.length, cs.drop own.length)

/-- Takes exactly `n` digits. -/
def exactDigits (n : Nat) (cs : List Char) : Option (Int × List Char) :=
  let own := (cs.take n).takeWhile Char.isDigit
  if own.length == n then
    some (Int.ofNat (own.foldl (fun n c => n * 10 + (c.toNat - 48)) 0), cs.drop n)
  else none

/-- Takes a character. -/
def takeChar (c : Char) : List Char → Option (List Char)
  | d :: rest => if c == d then some rest else none
  | [] => none

/-- Reads a zone: minutes ahead of Greenwich. -/
def readZone : List Char → Option (Int × List Char)
  | 'Z' :: rest => some (0, rest)
  | c :: rest =>
    if c == '+' || c == '-' then do
      let (h, rest) ← exactDigits 2 rest
      let (m, rest) ← exactDigits 2 ((takeChar ':' rest).getD rest)
      return ((if c == '-' then -1 else 1) * (h * 60 + m), rest)
    else none
  | [] => none

/-- Reads a fraction of a second in milliseconds. -/
def readFraction (cs : List Char) : Option (Int × List Char) :=
  match cs with
  | c :: rest =>
    if c == '.' || c == ',' then
      let own := rest.takeWhile Char.isDigit
      if own.isEmpty then none
      else
        let ms := ((own ++ ['0', '0', '0']).take 3).foldl (fun n c => n * 10 + (c.toNat - 48)) 0
        some (Int.ofNat ms, rest.drop own.length)
    else some (0, cs)
  | [] => some (0, [])

/-- Reads the form for interchange. -/
def readIso (cs : List Char) : Option Float := do
  let (year, cs) ← match cs with
    | '+' :: rest => exactDigits 6 rest
    | '-' :: rest => do
      let (y, rest) ← exactDigits 6 rest
      if y == 0 then none else pure (-y, rest)
    | cs => exactDigits 4 cs
  let dashed (cs : List Char) : Option (Option Int × List Char) :=
    match cs with
    | '-' :: rest => do
      let (n, rest) ← exactDigits 2 rest
      return (some n, rest)
    | cs => some (none, cs)
  let (month, cs) ← dashed cs
  let (day, cs) ← if month.isSome then dashed cs else some (none, cs)
  let (hour, minute, second, ms, zone, cs) ← match cs with
    | c :: rest =>
      if c == 'T' || c == ' ' then do
        let (h, rest) ← exactDigits 2 rest
        let rest ← takeChar ':' rest
        let (m, rest) ← exactDigits 2 rest
        let (s, ms, rest) ← match rest with
          | ':' :: rest => do
            let (s, rest) ← exactDigits 2 rest
            let (ms, rest) ← readFraction rest
            pure (s, ms, rest)
          | rest => pure (0, 0, rest)
        let (zone, rest) := (readZone rest).getD (0, rest)
        pure (h, m, s, ms, zone, rest)
      else none
    | [] => some (0, 0, 0, 0, 0, [])
  let month := month.getD 1
  let day := day.getD 1
  if !cs.isEmpty || month < 1 || month > 12 || day < 1 || day > 31 || hour > 24 || minute > 59 ||
      second > 59 || (hour == 24 && (minute != 0 || second != 0 || ms != 0)) then none
  else
    some (timeClip (Float.ofInt
      ((Civil.toMillis ⟨year, month - 1, day, hour, minute, second, ms, 0⟩) - zone * 60000)))

/-- The month whose name a word begins with. -/
def monthOf? (word : String) : Option Int :=
  let three := String.ofList ((word.toList.take 3).map Char.toLower)
  (monthNames.findIdx? fun m => String.ofList (m.toList.map Char.toLower) == three).map Int.ofNat

/-- Reads a clock: hours, minutes and seconds. -/
def readClock (word : String) : Option (Int × Int × Int) :=
  match (word.splitOn ":").map String.toNat? with
  | [some h, some m] => some (h, m, 0)
  | [some h, some m, some s] => some (h, m, s)
  | _ => none

/-- What is known of a date while it is read word by word. -/
structure Wording where
  year : Option Int := none
  month : Option Int := none
  day : Option Int := none
  clock : Int × Int × Int := (0, 0, 0)
  zone : Int := 0

/-- Reads a word of a date. -/
def Wording.add (w : Wording) (word : String) : Option Wording :=
  if word.isEmpty then some w
  else if let some m := monthOf? word then some { w with month := some m }
  else if dayNames.any fun d => word.startsWith d then some w
  else if let some clock := readClock word then some { w with clock }
  else if word == "GMT" || word == "UTC" || word == "Z" then some w
  else if word.startsWith "GMT" || word.startsWith "UTC" then
    (readZone (word.toList.drop 3)).map fun z => { w with zone := z.1 }
  else if word == "AM" then
    some { w with clock := (if w.clock.1 == 12 then 0 else w.clock.1, w.clock.2) }
  else if word == "PM" then
    some { w with clock := (if w.clock.1 == 12 then 12 else w.clock.1 + 12, w.clock.2) }
  else
    match (word.splitOn "/").map String.toNat? with
    | [some m, some d, some y] =>
      some { w with month := some (Int.ofNat m - 1), day := some d, year := some y }
    | [some n] =>
      if w.day.isNone && n ≤ 31 then some { w with day := some n }
      else if w.year.isNone then some { w with year := some n }
      else none
    | _ => if word.startsWith "(" then some w else none

/-- Reads a date in words. -/
def readWording (s : String) : Option Float := do
  let words := (String.ofList (s.toList.map fun c => if c == ',' then ' ' else c)).splitOn " "
  let w ← words.foldlM Wording.add ({} : Wording)
  let year ← w.year
  let month ← w.month
  let year := if year < 50 then year + 2000 else if year < 100 then year + 1900 else year
  let (h, m, s) := w.clock
  return timeClip (Float.ofInt
    ((Civil.toMillis ⟨year, month, w.day.getD 1, h, m, s, 0, 0⟩) - w.zone * 60000))

/-- Reads a date. -/
def readDate (u : CodeUnits) : Float :=
  let s := u.trim.toStringLossy
  ((readIso s.toList).or (readWording s)).getD notANumber

/-! ### Dates -/

/-- The time value that a member of the prototype is called for. -/
def receiverTime (c : Call) : M Float := do
  match c.receiver with
  | .object r =>
    match ← getKind r with
    | .date t => return t
    | _ => typeError "not a Date object"
  | _ => typeError "not a Date object"

/-- The text of a date; one that is no number has a text of its own. -/
def dateTextOf (t : Float) (text : Civil → String) : String :=
  if t.isNaN then "Invalid Date" else text (Civil.ofMillis (wholePart t))

/-- The present. It moves on with the instructions that are carried out, so a script that
waits for a moment sees it come. -/
def present : M Float := do
  return 1700000000000 - Float.ofNat ((← get).steps / stepsPerMillisecond)

/-- Makes a date. -/
def makeDate (c : Call) : M Value := do
  let whole (c : Civil) : String := c.dateText ++ " " ++ c.timeText
  if c.newTarget.isNone then return .text (dateTextOf (← present) whole)
  let t ← match c.args.size with
    | 0 => present
    | 1 => do
      let own : Option Float ← match c.arg 0 with
        | .object r => do
          match ← getKind r with
          | .date t => pure (some t)
          | _ => pure none
        | _ => pure none
      match own with
      | some t => pure t
      | none =>
        match ← toPrimitive (c.arg 0) .default with
        | .string u => pure (readDate u)
        | v => pure (timeClip (← toNumber v))
    | _ => do pure (timeOfParts (← (c.args.toList.take 7).mapM toNumber))
  return .object (← alloc { kind := .date t, prototype := some (← c.prototypeOr .datePrototype) })

/-- A part of a date, under a name for local time and one for Greenwich. -/
def datePart (name : String) (part : Civil → Int) : List Member :=
  let read (c : Call) : M Value := do
    let t ← receiverTime c
    if t.isNaN then return .number notANumber
    return .int (part (Civil.ofMillis (wholePart t)))
  [.fn ("get" ++ name) 0 read, .fn ("getUTC" ++ name) 0 read]

/-- Changes parts of a date, the first of which has a position among all parts. -/
def dateChange (name : String) (first count : Nat) : List Member :=
  let write (c : Call) : M Value := do
    let t ← receiverTime c
    let given ← (c.args.toList.take count).mapM toNumber
    let given := if given.isEmpty then [notANumber] else given
    let t := if first == 0 && t.isNaN then 0 else t
    let result :=
      if t.isNaN || given.any (fun x => !x.isFinite || x.abs > 1e15) then notANumber
      else
        let own := Civil.ofMillis (wholePart t)
        let parts := [own.year, own.month, own.day, own.hour, own.minute, own.second,
          own.millisecond]
        let parts := parts.take first ++ given.map wholePart ++ parts.drop (first + given.length)
        let part (i : Nat) : Int := parts.getD i 0
        timeClip (Float.ofInt
          (Civil.toMillis ⟨part 0, part 1, part 2, part 3, part 4, part 5, part 6, 0⟩))
    match c.receiver with
    | .object r => setKind r (.date result)
    | _ => pure ()
    return .number result
  [.fn ("set" ++ name) count write, .fn ("setUTC" ++ name) count write]

/-- A text of a date. -/
def dateForm (name : String) (text : Civil → String) : Member :=
  .fn name 0 fun c => do return .text (dateTextOf (← receiverTime c) text)

/-- The members of the prototype of dates. -/
def dateMembers : List Member :=
  [ .constructor .date
    , .fn "valueOf" 0 fun c => do return .number (← receiverTime c)
    , dateForm "toString" fun c => c.dateText ++ " " ++ c.timeText
    , .method WellKnown.toPrimitive.key
        ⟨"[Symbol.toPrimitive]", 1, fun c => do
          let r ← requireRef c.receiver
          let hint ← match c.arg 0 with
            | .string u => pure u.toStringLossy
            | _ => typeError "invalid hint"
          let order : List Key :=
            if hint == "number" then ["valueOf", "toString"] else ["toString", "valueOf"]
          if hint == "number" || hint == "string" || hint == "default" then firstPrimitive r order
          else typeError "invalid hint", false⟩
    , dateForm "toUTCString" Civil.utcText
    , .same "toGMTString" "toUTCString"
    , .fn "toISOString" 0 fun c => do
        let t ← receiverTime c
        if t.isNaN then rangeError "Date value is NaN"
        return .text (Civil.ofMillis (wholePart t)).isoText
    , dateForm "toDateString" Civil.dateText
    , dateForm "toTimeString" Civil.timeText
    , dateForm "toLocaleString" fun c => c.localDate ++ ", " ++ c.localTime
    , dateForm "toLocaleDateString" Civil.localDate
    , dateForm "toLocaleTimeString" Civil.localTime
    , .fn "getTimezoneOffset" 0 fun c => do
        let t ← receiverTime c
        return .number (if t.isNaN then t else 0)
    , .fn "getTime" 0 fun c => do return .number (← receiverTime c)
    , .fn "getYear" 0 fun c => do
        let t ← receiverTime c
        if t.isNaN then return .number t
        return .int ((Civil.ofMillis (wholePart t)).year - 1900)
    , .fn "setTime" 1 fun c => do
        let _ ← receiverTime c
        let t := timeClip (← toNumber (c.arg 0))
        setKind (← requireRef c.receiver) (.date t)
        return .number t
    , .fn "toJSON" 1 fun c => do
        let r ← toObject c.receiver
        match ← toPrimitive (.object r) .number with
        | .number x => if !x.isFinite then return .null
        | _ => pure ()
        invoke (.object r) "toISOString" ] ++
  datePart "FullYear" (·.year) ++ datePart "Month" (·.month) ++ datePart "Date" (·.day) ++
  datePart "Hours" (·.hour) ++ datePart "Minutes" (·.minute) ++ datePart "Seconds" (·.second) ++
  datePart "Milliseconds" (·.millisecond) ++ datePart "Day" (·.weekday) ++
  dateChange "Milliseconds" 6 1 ++ dateChange "Seconds" 5 2 ++ dateChange "Minutes" 4 3 ++
  dateChange "Hours" 3 4 ++ dateChange "Date" 2 1 ++ dateChange "Month" 1 2 ++
  dateChange "FullYear" 0 3

/-- `Date` and its prototype. -/
def dateHolders : List Holder :=
  [ .ofConstructor .date .datePrototype "Date" 7 makeDate
      [ .fn "now" 0 fun _ => do return .number (← present)
        , .fn "parse" 1 fun c => do return .number (readDate (← toText (c.arg 0)))
        , .fn "UTC" 7 fun c => do
            let parts ← (c.args.toList.take 7).mapM toNumber
            return .number (if parts.isEmpty then notANumber else timeOfParts parts) ]
  , { object := .datePrototype, members := dateMembers } ]

end PatchSandbox.Machine.Library
