/-! # The journal

Every part of the program may note what it does. A journal is read as lines; failures to bump a
generation are noted in no particular order, so that a run of such lines is put into the order of
its texts.
-/

namespace TrackedSettings

inductive Level where
  | error
  | warn
  | info
  | debug
  | trace
deriving DecidableEq, Repr, Inhabited

def Level.label : Level → String
  | error => "ERROR"
  | warn => "WARN"
  | info => "INFO"
  | debug => "DEBUG"
  | trace => "TRACE"

structure Note where
  level : Level
  text : String
deriving DecidableEq, Repr, Inhabited

def Note.line (n : Note) : String :=
  n.level.label ++ " " ++ n.text

/-- The notes made so far, in order. -/
abbrev Journal := Array Note

/-- Put every longest run of loose elements into the order of `le`; `run` is the part seen so far of
the run that the list begins in. -/
def sortRuns {α : Type} (loose : α → Bool) (le : α → α → Bool) (run : List α) : List α → List α
  | [] => run.mergeSort le
  | x :: rest =>
      if loose x then sortRuns loose le (run ++ [x]) rest
      else run.mergeSort le ++ x :: sortRuns loose le [] rest

/-- Notes of this kind come in no order of their own. -/
def Note.isBumpFailure (n : Note) : Bool :=
  n.level = .error && "Failed to bump".toList.isPrefixOf n.text.toList

def Journal.lines (j : Journal) : List String :=
  (sortRuns Note.isBumpFailure (fun a b => decide (a.line ≤ b.line)) [] j.toList).map Note.line

end TrackedSettings
