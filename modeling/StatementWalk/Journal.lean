import StatementWalk.Action

/-!
# Journals

What a walk writes: the lines taken by its sink, and the records of the log. A sink may refuse a
line; then the walk fails or goes on, as the place where the line was offered decides.
-/

namespace StatementWalk

inductive Level where
  | debug
  | info
  | error
deriving DecidableEq, Repr

inductive Source where
  | walking
  | normalization
  | warnings
  | statements
  | connections
  | commandLine
deriving DecidableEq, Repr

structure LogRecord where
  level : Level
  source : Source
  text : String
deriving DecidableEq, Repr

structure Journal where
  lines : List String := []
  log : List LogRecord := []
deriving DecidableEq, Repr

/-- Takes lines; a sink may refuse one. -/
abbrev Sink := String → Action Journal Unit

namespace Journal

def addLine (j : Journal) (line : String) : Journal := { j with lines := j.lines ++ [line] }

def addRecord (j : Journal) (r : LogRecord) : Journal := { j with log := j.log ++ [r] }

def note (level : Level) (source : Source) (text : String) : Action Journal Unit :=
  Action.modify (·.addRecord ⟨level, source, text⟩)

end Journal

namespace Sink

def collecting : Sink := fun line => Action.modify (·.addLine line)

def logging (level : Level) (source : Source) : Sink := fun line =>
  Action.modify (·.addRecord ⟨level, source, line⟩)

/-- Refuses the lines of a kind and keeps the others. -/
def refusing (unwanted : String → Bool) (f : Fault) : Sink := fun line =>
  if unwanted line then Action.fail f else collecting line

end Sink

/-- The state of a driver with the journal of what is done with it. -/
structure World (σ : Type) where
  driver : σ
  journal : Journal

namespace World

variable {σ α : Type}

def onDriver (x : Action σ α) : Action (World σ) α :=
  x.within World.driver fun d w => { w with driver := d }

def onJournal (x : Action Journal α) : Action (World σ) α :=
  x.within World.journal fun j w => { w with journal := j }

def log (level : Level) (source : Source) (text : String) : Action (World σ) Unit :=
  Action.modify fun w => { w with journal := w.journal.addRecord ⟨level, source, text⟩ }

@[simp] theorem run_onDriver (x : Action σ α) (w : World σ) :
    (onDriver x).run w = ((x.run w.driver).1, { w with driver := (x.run w.driver).2 }) := rfl

@[simp] theorem run_onJournal (x : Action Journal α) (w : World σ) :
    (onJournal x).run w = ((x.run w.journal).1, { w with journal := (x.run w.journal).2 }) := rfl

@[simp] theorem run_log (level : Level) (source : Source) (text : String) (w : World σ) :
    (log level source text).run w =
      (.ok (), { w with journal := w.journal.addRecord ⟨level, source, text⟩ }) := rfl

end World

end StatementWalk
