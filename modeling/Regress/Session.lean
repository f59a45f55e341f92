import Regress.FileTree

/-!
# The state of a run

A run reads and writes files, prints to standard output and standard error, and moves a
progress display. A `Session` holds all of it: the file tree, the working directory, the text
printed so far on each stream, the progress marks in order, and whatever state the tools keep.
Each effect is one small update of the session, so a run is a plain function from a session
to a session, and what it printed and wrote can be read off the result.
-/

namespace Regress

/-- One move of the progress display: the cases that passed and failed so far, or the end of
the run. -/
inductive ProgressMark where
  | counts (succeeded failed : Nat)
  | finish
  deriving Repr, DecidableEq, Inhabited

/-- What a run acts on and what it has produced so far. The tools keep state of type `σ`. -/
structure Session (σ : Type) where
  tree : FileTree
  cwd : List String
  out : String := ""
  err : String := ""
  progress : List ProgressMark := []
  tools : σ

/-- A step of a run. -/
abbrev SessionM (σ : Type) := StateM (Session σ)

namespace Session

variable {σ : Type}

/-- Prints text on standard output. -/
def print (text : String) : SessionM σ Unit :=
  modify fun s => { s with out := s.out ++ text }

/-- Prints text on standard error. -/
def printErr (text : String) : SessionM σ Unit :=
  modify fun s => { s with err := s.err ++ text }

/-- Moves the progress display. -/
def mark (m : ProgressMark) : SessionM σ Unit :=
  modify fun s => { s with progress := s.progress ++ [m] }

/-- Replaces the file tree. -/
def setTree (t : FileTree) : SessionM σ Unit :=
  modify fun s => { s with tree := t }

/-- Updates the tools' state. -/
def updateTools (f : σ → σ) : SessionM σ Unit :=
  modify fun s => { s with tools := f s.tools }

end Session

end Regress
