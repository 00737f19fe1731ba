import Templating.Pattern.Program

/-!
# Searching for patterns

A search runs the program of a pattern over a text from left to right with all threads
at once, in order of preference: what one thread reads, the others read too, and of two
threads that reach the same instruction at the same place only the preferred one goes on.
So of all matches at the leftmost place the search finds the one that the pattern prefers.

* `Program.find?`: the first match from a place on, with its groups.
-/

namespace Templating

/-- A match in a text. -/
structure PatternMatch where
  start : Nat
  stop : Nat
  /-- The slots noted, each with its place, the last one first. -/
  trail : List (Nat × Nat)

namespace PatternMatch

def slot? (trail : List (Nat × Nat)) (slot : Nat) : Option Nat := trail.lookup slot

/-- The match whose ends a trail notes. -/
def ofTrail? (trail : List (Nat × Nat)) : Option PatternMatch :=
  match slot? trail 0, slot? trail 1 with
  | some start, some stop => some ⟨start, stop, trail⟩
  | _, _ => none

/-- The places between which a group was, if it took part in the match. -/
def group? (m : PatternMatch) (k : Nat) : Option (Nat × Nat) :=
  match slot? m.trail (2 * k), slot? m.trail (2 * k + 1) with
  | some start, some stop => some (start, stop)
  | _, _ => none

end PatternMatch

namespace Program

def wordAt (text : Array Char) (ascii : Bool) (i : Nat) : Bool :=
  match text[i]? with
  | some c =>
    if c.toNat < 128 then c.isAlphanum || c == '_' else !ascii && CharSet.words.mem c
  | none => false

def wordBefore (text : Array Char) (ascii : Bool) (i : Nat) : Bool :=
  i != 0 && wordAt text ascii (i - 1)

/-- Whether a place in a text is what a pattern asks for. -/
def holdsAt (text : Array Char) (i : Nat) : Place → Bool
  | .textStart => i == 0
  | .textEnd => i == text.size
  | .lineStart => i == 0 || text[i - 1]? == some '\n'
  | .lineEnd => i == text.size || text[i]? == some '\n'
  | .lineStartReturn =>
    i == 0 || text[i - 1]? == some '\n' || (text[i - 1]? == some '\r' && text[i]? != some '\n')
  | .lineEndReturn =>
    i == text.size || text[i]? == some '\r' ||
      (text[i]? == some '\n' && (i == 0 || text[i - 1]? != some '\r'))
  | .wordBoundary a => wordBefore text a i != wordAt text a i
  | .noWordBoundary a => wordBefore text a i == wordAt text a i
  | .wordStart a => !wordBefore text a i && wordAt text a i
  | .wordEnd a => wordBefore text a i && !wordAt text a i
  | .wordStartHalf a => !wordBefore text a i
  | .wordEndHalf a => !wordAt text a i

/-- An instruction that comes next, with the slots noted before, the last one first. -/
structure Thread where
  step : Nat
  trail : List (Nat × Nat)

/-- When each instruction was last met; time goes on from place to place. -/
structure Marks where
  met : Array Nat
  time : Nat

namespace Marks

def fresh (p : Program) : Marks := ⟨Array.replicate p.instructions.size 0, 1⟩

def isMet (m : Marks) (step : Nat) : Bool := m.met.getD step m.time == m.time

def meet (m : Marks) (step : Nat) : Marks := ⟨m.met.setIfInBounds step m.time, m.time⟩

def tick (m : Marks) : Marks := ⟨m.met, m.time + 1⟩

end Marks

/-- What a thread is after its instruction has read a character, if it does read one. -/
def read? (c : Char) (t : Thread) : Instruction → Option Thread
  | .char d => if c == d then some ⟨t.step + 1, t.trail⟩ else none
  | .set s => if s.mem c then some ⟨t.step + 1, t.trail⟩ else none
  | _ => none

/-- Follows threads at a place, the preferred one first, up to instructions that read a
character, and gives those that have read it, the last one first. A thread that is done
ends this, because all others come after it; its trail is given too. At most `fuel` steps
are taken. -/
def spread (p : Program) (text : Array Char) (i : Nat) (next : Option Char) :
    (fuel : Nat) → List Thread → List Thread → Marks →
      List Thread × Option (List (Nat × Nat)) × Marks
  | 0, _, ready, marks | _, [], ready, marks => (ready, none, marks)
  | fuel + 1, t :: threads, ready, marks =>
    if marks.isMet t.step then spread p text i next fuel threads ready marks
    else
      let marks := marks.meet t.step
      match p.instructions[t.step]? with
      | none => spread p text i next fuel threads ready marks
      | some .done => (ready, some t.trail, marks)
      | some (.fork targets) =>
        let forked := targets.map fun target => ⟨target, t.trail⟩
        spread p text i next fuel (forked ++ threads) ready marks
      | some (.save slot) =>
        spread p text i next fuel (⟨t.step + 1, (slot, i) :: t.trail⟩ :: threads) ready marks
      | some (.place place) =>
        if holdsAt text i place then
          spread p text i next fuel (⟨t.step + 1, t.trail⟩ :: threads) ready marks
        else spread p text i next fuel threads ready marks
      | some instruction =>
        match next.bind fun c => read? c t instruction with
        | some t => spread p text i next fuel threads (t :: ready) marks
        | none => spread p text i next fuel threads ready marks

/-- Goes on with threads from a place, for at most `count` places. Until there is a match,
one may also begin at each place; then the threads before it may find a better one. -/
def advance (p : Program) (text : Array Char) :
    (count : Nat) → (i : Nat) → List Thread → Option (List (Nat × Nat)) → Marks →
      Option (List (Nat × Nat)) × Marks
  | 0, _, _, best, marks => (best, marks)
  | count + 1, i, threads, best, marks =>
    if threads.isEmpty && best.isSome then (best, marks)
    else
      let started := if best.isSome then threads else threads ++ [⟨0, []⟩]
      let (ready, done, marks) :=
        spread p text i text[i]? (p.ways + started.length) started [] marks
      let best := match done with
        | some trail => some trail
        | none => best
      advance p text count (i + 1) ready.reverse best marks.tick

/-- **The leftmost match from a place on.** -/
def find? (p : Program) (text : Array Char) (start : Nat) (marks : Marks) :
    Option PatternMatch × Marks :=
  let (best, marks) := advance p text (text.size + 1 - start) start [] none marks
  (best.bind PatternMatch.ofTrail?, marks)

end Program

end Templating
