import PatchSandbox.Regex.Reader

/-!
# Programs of regular expressions

* A pattern as instructions for a backtracking machine. **`Program.ofPattern`** lays the
  instructions out; every part of a pattern gives a stretch of them that goes on after its end.
  Captures are slots: group `i` starts at slot `2 * i` and stops at slot `2 * i + 1`. A repetition
  owns two registers: how often it was done, and where its last round began. A round that reads
  nothing fails, so that no repetition goes on forever.
* **`Program.matchAt`** runs a program against a text from a given position. The machine keeps
  a list of states to go back to; a state is a position in the code and in the text, with
  captures and registers. Work is bounded by a number of steps, and a run that needs more is
  given up.
-/

/-! ### Programs -/

namespace PatchSandbox.Regex

open PatchSandbox.Text

/-- An instruction. -/
inductive Instr where
  /-- Reads a code point that equals the given one. -/
  | char (backward : Bool) (c : Nat)
  | any (backward : Bool)
  | set (backward negated : Bool) (items : List Item)
  /-- Reads what the first of the groups that has a value has captured. -/
  | back (backward : Bool) (groups : List Nat)
  | lineStart
  | lineEnd
  | boundary (negated : Bool)
  | save (slot : Nat)
  /-- Forgets the captures of the groups from `first` up to, but without, `stop`. -/
  | clear (first stop : Nat)
  /-- Goes on at `first`, and at `second` if that fails. -/
  | split (first second : Nat)
  | jump (target : Nat)
  /-- Starts a repetition. -/
  | start (register : Nat)
  /-- Begins a further round or goes on at `exit`. -/
  | round (register min : Nat) (max : Option Nat) (greedy : Bool) (exit : Nat)
  /-- Ends a round; one beyond the least number has to have read something. -/
  | progress (register min : Nat)
  /-- Tries the instructions after it up to `accept`, and goes on at `exit`. -/
  | look (negated : Bool) (exit : Nat)
  | accept
  deriving Inhabited

/-- Instructions with the numbers of slots and registers they need. -/
structure Program where
  code : Array Instr
  flags : Flags
  groups : Nat
  registers : Nat
  names : List (CodeUnits × Nat)
  deriving Inhabited

/-- Code that is being laid out. -/
structure Layout where
  code : Array Instr := #[]
  registers : Nat := 0

namespace Layout

/-- Adds an instruction. -/
def emit (l : Layout) (i : Instr) : Layout := { l with code := l.code.push i }

/-- Replaces an instruction. -/
def patch (l : Layout) (at_ : Nat) (i : Instr) : Layout :=
  { l with code := l.code.setIfInBounds at_ i }

/-- Where the next instruction goes. -/
def next (l : Layout) : Nat := l.code.size

/-- Adds the instructions of a pattern. -/
def add (l : Layout) (backward : Bool) : Pattern → Layout
  | .empty => l
  | .char c => l.emit (.char backward c)
  | .any => l.emit (.any backward)
  | .set negated items => l.emit (.set backward negated items)
  | .both first second =>
    if backward then (l.add backward second).add backward first
    else (l.add backward first).add backward second
  | .either first second =>
    let split := l.next
    let l := ((l.emit (.split 0 0)).add backward first)
    let leap := l.next
    let l := (l.emit (.jump 0))
    let other := l.next
    let l := l.add backward second
    (l.patch split (.split (split + 1) other)).patch leap (.jump l.next)
  | .capture group body =>
    let (first, last) := if backward then (1, 0) else (0, 1)
    ((l.emit (.save (2 * group + first))).add backward body).emit (.save (2 * group + last))
  | .back groups => l.emit (.back backward groups)
  | .lineStart => l.emit .lineStart
  | .lineEnd => l.emit .lineEnd
  | .boundary negated => l.emit (.boundary negated)
  | .look behind negated body =>
    let look := l.next
    let l := ((l.emit (.look negated 0)).add behind body).emit .accept
    l.patch look (.look negated l.next)
  | .repeated body min max greedy first stop =>
    let register := l.registers
    let l := { l with registers := register + 2 }.emit (.start register)
    let round := l.next
    let l := (l.emit (.round register min max greedy 0))
    let l := if first < stop then l.emit (.clear first stop) else l
    let l := ((l.add backward body).emit (.progress register min)).emit (.jump round)
    l.patch round (.round register min max greedy l.next)

end Layout

/-- The program of a pattern. The whole match is group zero. -/
def Program.ofPattern (p : Parsed) (flags : Flags) : Program :=
  let l := (Layout.add {} false (.capture 0 p.pattern)).emit .accept
  ⟨l.code, flags, p.groups + 1, l.registers, p.names⟩

/-- Reads a regular expression. -/
def Program.read (source : CodeUnits) (flags : Flags) : Except String Program := do
  return .ofPattern (← Pattern.read source flags) flags

/-! ### Matching -/

/-- Where a run stands. -/
structure Thread where
  pc : Nat
  position : Nat
  captures : Array (Option Nat)
  registers : Array Nat
  deriving Inhabited

/-- How a run ends. -/
inductive Outcome where
  | matched (captures : Array (Option Nat)) (position : Nat)
  | failed
  /-- The steps did not suffice. -/
  | exhausted
  deriving Inhabited

namespace Program

/-- The code point that ends at a position. -/
def codePointBefore (u : CodeUnits) (i : Nat) : Option (Nat × Nat) :=
  if i = 0 then none
  else
    match u.get? (i - 1) with
    | none => none
    | some d =>
      if CodeUnits.isTrail d && 2 ≤ i then
        match u.get? (i - 2) with
        | some c =>
          if CodeUnits.isLead c then some (CodeUnits.pairScalar c d, 2) else some (d.toNat, 1)
        | none => some (d.toNat, 1)
      else some (d.toNat, 1)

/-- The code point, or unit, read next, and the position after it. -/
def readAt (p : Program) (u : CodeUnits) (backward : Bool) (i : Nat) : Option (Nat × Nat) :=
  if p.flags.byCodePoint then
    if backward then (codePointBefore u i).map fun (c, w) => (c, i - w)
    else (u.codePointAt i).map fun (c, w) => (c, i + w)
  else if backward then
    if i = 0 then none else (u.get? (i - 1)).map fun c => (c.toNat, i - 1)
  else (u.get? i).map fun c => (c.toNat, i + 1)

/-- Whether the units of two stretches are the same, up to the case where that is asked. -/
def sameStretch (p : Program) (u : CodeUnits) (a b : Nat) : Nat → Bool
  | 0 => true
  | n + 1 =>
    (match u.get? (a + n), u.get? (b + n) with
      | some c, some d => fold p.flags c.toNat == fold p.flags d.toNat
      | _, _ => false) && sameStretch p u a b n

/-- Whether a word character stands at a position. -/
def wordAt (u : CodeUnits) (i : Nat) : Bool :=
  match u.get? i with
  | some c => isWord c.toNat
  | none => false

/-- What the first of some groups that has a value has captured. -/
def captured (captures : Array (Option Nat)) : List Nat → Option (Nat × Nat)
  | [] => none
  | g :: rest =>
    match (captures.getD (2 * g) none), (captures.getD (2 * g + 1) none) with
    | some a, some b => some (a, b)
    | _, _ => captured captures rest

/-- What an instruction does with a thread. -/
inductive Move where
  | fail
  | go (t : Thread)
  /-- Goes on with the first thread, and with the second if that fails. -/
  | fork (t other : Thread)
  | look (negated : Bool) (exit : Nat)
  | accept

/-- Goes on behind an instruction that only tests. -/
def test (t : Thread) (holds : Bool) : Move :=
  if holds then .go { t with pc := t.pc + 1 } else .fail

/-- Reads a code point that passes a test. -/
def consume (p : Program) (u : CodeUnits) (backward : Bool) (t : Thread)
    (passes : Nat → Bool) : Move :=
  match p.readAt u backward t.position with
  | some (c, next) =>
    if passes c then .go { t with pc := t.pc + 1, position := next } else .fail
  | none => .fail

/-- Begins a further round of a repetition, or leaves it. -/
def round (t : Thread) (register min : Nat) (max : Option Nat) (greedy : Bool) (exit : Nat) :
    Move :=
  let done := t.registers.getD register 0
  let again : Thread :=
    { t with
      pc := t.pc + 1
      registers :=
        (t.registers.setIfInBounds register (done + 1)).setIfInBounds (register + 1) t.position }
  let leave : Thread := { t with pc := exit }
  if done < min then .go again
  else if max.any (· ≤ done) then .go leave
  else if greedy then .fork again leave
  else .fork leave again

/-- Reads again what a group has captured. -/
def repeatCapture (p : Program) (u : CodeUnits) (backward : Bool) (groups : List Nat) (t : Thread) :
    Move :=
  match captured t.captures groups with
  | none => .go { t with pc := t.pc + 1 }
  | some (a, b) =>
    let n := b - a
    if backward then
      if n ≤ t.position && p.sameStretch u a (t.position - n) n then
        .go { t with pc := t.pc + 1, position := t.position - n }
      else .fail
    else if t.position + n ≤ u.size && p.sameStretch u a t.position n then
      .go { t with pc := t.pc + 1, position := t.position + n }
    else .fail

/-- Whether the unit at a position ends a line. -/
def lineEndAt (u : CodeUnits) (i : Nat) : Bool := (u.get? i).any fun c => isLineEnd c.toNat

/-- Executes the instruction at which a thread stands. -/
def step (p : Program) (u : CodeUnits) (t : Thread) : Move :=
  match p.code.getD t.pc .accept with
  | .char backward c =>
    p.consume u backward t fun d => c == d || fold p.flags c == fold p.flags d
  | .any backward => p.consume u backward t fun d => p.flags.dotAll || !isLineEnd d
  | .set backward negated items => p.consume u backward t fun d => inClass p.flags negated items d
  | .back backward groups => p.repeatCapture u backward groups t
  | .lineStart =>
    test t (t.position == 0 || (p.flags.multiline && lineEndAt u (t.position - 1)))
  | .lineEnd => test t (t.position == u.size || (p.flags.multiline && lineEndAt u t.position))
  | .boundary negated =>
    let before := t.position > 0 && wordAt u (t.position - 1)
    test t ((before != wordAt u t.position) != negated)
  | .save slot =>
    .go { t with
      pc := t.pc + 1
      captures := t.captures.setIfInBounds slot (some t.position) }
  | .clear first stop =>
    let captures :=
      (List.range' (2 * first) (2 * (stop - first))).foldl
        (fun cs i => cs.setIfInBounds i none) t.captures
    .go { t with pc := t.pc + 1, captures }
  | .split first second => .fork { t with pc := first } { t with pc := second }
  | .jump target => .go { t with pc := target }
  | .start register =>
    .go { t with pc := t.pc + 1, registers := t.registers.setIfInBounds register 0 }
  | .round register min max greedy exit => round t register min max greedy exit
  | .progress register min =>
    test t (t.registers.getD register 0 ≤ min ||
      t.registers.getD (register + 1) 0 != t.position)
  | .look negated exit => .look negated exit
  | .accept => .accept

/-- Runs threads until one accepts. -/
def run (p : Program) (u : CodeUnits) : Nat → Thread → List Thread → Outcome
  | 0, _, _ => .exhausted
  | fuel + 1, t, later =>
    match p.step u t with
    | .go s => run p u fuel s later
    | .fork s other => run p u fuel s (other :: later)
    | .accept => .matched t.captures t.position
    | .fail =>
      match later with
      | [] => .failed
      | s :: rest => run p u fuel s rest
    | .look negated exit =>
      match run p u fuel { t with pc := t.pc + 1 } [], negated with
      | .exhausted, _ => .exhausted
      | .matched captures _, false => run p u fuel { t with pc := exit, captures } later
      | .failed, true => run p u fuel { t with pc := exit } later
      | _, _ =>
        match later with
        | [] => .failed
        | s :: rest => run p u fuel s rest

/-- Steps that a match at one position may take. -/
def stepBound : Nat := 50000000

/-- The captures of a match that starts at a position. -/
def matchAt (p : Program) (u : CodeUnits) (position : Nat) : Outcome :=
  p.run u stepBound
    ⟨0, position, Array.replicate (2 * p.groups) none, Array.replicate p.registers 0⟩ []

/-- The first match at or after a position, tried at `n` more positions at most. -/
def searchFrom (p : Program) (u : CodeUnits) : Nat → Nat → Outcome
  | 0, _ => .failed
  | n + 1, i =>
    match p.matchAt u i with
    | .failed =>
      let width :=
        if p.flags.byCodePoint then (u.codePointAt i).elim 1 (·.2) else 1
      searchFrom p u n (i + width)
    | other => other

/-- The first match at or after a position. -/
def search (p : Program) (u : CodeUnits) (position : Nat) : Outcome :=
  if position ≤ u.size then p.searchFrom u (u.size + 1 - position) position else .failed

end Program

end PatchSandbox.Regex
