import Templating.Pattern.Basic

/-!
# Programs of patterns

A pattern becomes a list of instructions, which follow one another unless they say where
to go on. `Program.ofPattern` writes them.
-/

namespace Templating

/-- A step through a text. -/
inductive Instruction where
  | char (c : Char)
  | set (s : CharSet)
  | place (p : Place)
  /-- The steps to try instead of the next one, the preferred one first. -/
  | fork (targets : List Nat)
  /-- Notes the place in a slot. -/
  | save (slot : Nat)
  | done

structure Program where
  instructions : Array Instruction
  /-- The number of ways from an instruction to another. -/
  ways : Nat

namespace Program

abbrev Code := Array Instruction

/-- A fork that goes on or goes away. -/
def fork (greedy : Bool) (on away : Nat) : Instruction :=
  .fork (if greedy then [on, away] else [away, on])

/-- Writes a fork that is completed later. -/
def reserve (code : Code) : Code := code.push (.fork [])

/-- Completes the forks at some places. -/
def complete (i : Nat → Instruction) : List Nat → Code → Code
  | [], code => code
  | place :: places, code => complete i places (code.setIfInBounds place (i place))

/-- `count` times the same. -/
def copies (body : Code → Code) : (count : Nat) → Code → Code
  | 0, code => code
  | count + 1, code => copies body count (body code)

/-- At most `count` times the same; the forks before each time are at `forks`. -/
def optional (body : Code → Code) (greedy : Bool) (forks : List Nat) : (count : Nat) → Code → Code
  | 0, code =>
    let next := code.size
    complete (fun place => fork greedy (place + 1) next) forks code
  | count + 1, code =>
    let fork := code.size
    optional body greedy (fork :: forks) count (body (reserve code))

/-- Once or more often: after each time a fork decides whether to go back. -/
def plus (body : Code → Code) (greedy : Bool) (code : Code) : Code :=
  let start := code.size
  let done := body code
  let next := done.size + 1
  done.push (fork greedy start next)

/-- Any number of times. A body that may match nothing is tried once before it is
repeated, so that it ends like any other. -/
def star (body : Code → Code) (consumes greedy : Bool) (code : Code) : Code :=
  let start := code.size
  let inner := if consumes
    then (body (reserve code)).push (.fork [start])
    else plus body greedy (reserve code)
  let next := inner.size
  inner.setIfInBounds start (fork greedy (start + 1) next)

mutual

/-- Writes the instructions of a pattern. -/
def write : Pattern → Code → Code
  | .empty, code => code
  | .literal text, code => text.foldl (fun code c => code.push (.char c)) code
  | .set s, code => code.push (.set s)
  | .place p, code => code.push (.place p)
  | .sequence ps, code => writeAll ps code
  | .choice ps, code =>
    let place := code.size
    writeChoice place [] [] ps (reserve code)
  | .repeated least most greedy p, code =>
    match most, least with
    | some most, _ => optional (write p) greedy [] (most - least) (copies (write p) least code)
    | none, 0 => star (write p) ((p.minLength.getD 0) != 0) greedy code
    | none, k + 1 => plus (write p) greedy (copies (write p) k code)
  | .group k p, code => (write p (code.push (.save (2 * k)))).push (.save (2 * k + 1))

def writeAll : List Pattern → Code → Code
  | [], code => code
  | p :: ps, code => writeAll ps (write p code)

/-- Writes alternatives, each with a way to the end after it. The fork to their starts is
at `place`. -/
def writeChoice (place : Nat) (starts ends : List Nat) : List Pattern → Code → Code
  | [], code =>
    let next := code.size
    (complete (fun _ => .fork [next]) ends code).setIfInBounds place (.fork starts.reverse)
  | p :: ps, code =>
    let start := code.size
    let written := write p code
    let stop := written.size
    writeChoice place (start :: starts) (stop :: ends) ps (reserve written)

end

def Instruction.ways : Instruction → Nat
  | .fork targets => targets.length
  | _ => 1

/-- The program of a pattern. The whole match is its group zero. -/
def ofPattern (p : Pattern) : Program :=
  let code := (write (.group 0 p) #[]).push .done
  ⟨code, code.foldl (fun n i => n + Instruction.ways i) 0⟩

end Program

end Templating
