import RepoCollector.Library.Operation

/-!
# The inventory of a library

The inventory lists the URLs from which the clones of a library were made, sorted.  Git is asked for
the URL of each clone in turn; a clone that git cannot tell the URL of is left out.
-/

namespace RepoCollector

/-- Where an inventory stands. -/
inductive InventoryPhase where
  /-- The directories are read. -/
  | reading
  /-- Git is started for the next clone. -/
  | launching (rest : List Place)
  /-- Git is running for a clone. -/
  | running (place : Place) (rest : List Place)
  | over (result : Except LibraryError (List String))
deriving Repr

/-- An inventory in progress. -/
structure Inventory where
  phase : InventoryPhase := .reading
  /-- The URLs found so far, the last one first. -/
  found : List String := []
deriving Repr

namespace Inventory

/-- The inventory, if it is complete, or why there is none. -/
def result? (inventory : Inventory) : Option (Except LibraryError (List String)) :=
  match inventory.phase with
  | .over result => some result
  | _ => none

/-- The clone that git is asked about, if it is. -/
def running? (inventory : Inventory) : Option Place :=
  match inventory.phase with
  | .running place _ => some place
  | _ => none

/-- Takes up what git answered about a clone. -/
def afterGit (inventory : Inventory) (rest : List Place) (answer : Except LibraryError String) :
    Inventory :=
  match answer with
  | .ok printed => { phase := .launching rest, found := originOf printed :: inventory.found }
  | .error _ => { inventory with phase := .launching rest }

/-- One step of an inventory; none if it has to wait for git or is over.  An inventory cannot be
told to give up. -/
def step (config : LibraryConfig) (surroundings : Surroundings) (inventory : Inventory)
    (files : Files) : Option Inventory :=
  match inventory.phase with
  | .reading =>
    match surroundings.allow files.clones with
    | .ok places => some { inventory with phase := .launching places }
    | .error fault => some { inventory with phase := .over (.error (.io fault)) }
  | .launching [] =>
    some { inventory with phase := .over (.ok (inventory.found.mergeSort (· ≤ ·))) }
  | .launching (place :: rest) =>
    match surroundings.fault with
    | some fault => some (inventory.afterGit rest (.error (.io fault)))
    | none => some { inventory with phase := .running place rest }
  | .running place rest =>
    match surroundings.report, surroundings.fault with
    | some report, _ => some (inventory.afterGit rest (report.result config (.readOrigin place)))
    | none, some fault => some (inventory.afterGit rest (.error (.io fault)))
    | none, none => none
  | .over _ => none

end Inventory

end RepoCollector
