import Templating.Session

/-!
# Blanks around markers

What goes away together with a marker: nothing, the rest of its line on both
sides with the line ending, or the blanks next to it.
-/

namespace Templating

inductive WhitespacePolicy where
  | keep | wholeLine | trim
  deriving DecidableEq

namespace WhitespacePolicy

/-- The policy of two flags, of which that for lines is the stronger. -/
def ofFlags (wholeLine trim : Bool) : WhitespacePolicy :=
  if wholeLine then .wholeLine else if trim then .trim else .keep

variable {τ : Type} [Target τ]

/-- Removes output before a marker. -/
def before (policy : WhitespacePolicy) (ctx : Context) : EStateM Error (Session τ) Unit :=
  match policy with
  | keep => pure ()
  | wholeLine => Session.cutBackTo ctx ctx.glossary.lineEndings false
  | trim => Session.cutTrailing ctx ctx.glossary.blanks

/-- Skips input after a marker. -/
def after (policy : WhitespacePolicy) (ctx : Context) : EStateM Error (Session τ) Unit :=
  match policy with
  | keep => pure ()
  | wholeLine => Session.onWindow do
    let _ ← Window.seekThrough ctx.glossary.lineEndings
    pure ()
  | trim => Session.onWindow (Window.seekWhile ctx.glossary.blanks)

end WhitespacePolicy

end Templating
