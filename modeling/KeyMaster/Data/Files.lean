import KeyMaster.Data.Paths
import Mathlib.Logic.Function.Basic

namespace KeyMaster.Data.Files

open Paths

/-! Programs that write files, and may break off at any system call. -/

inductive Node where
  | directory (mode : Nat)
  | file (bytes : List UInt8) (mode : Nat)
deriving DecidableEq, Repr

namespace Node

def withMode (mode : Nat) : Node → Node
  | .directory _ => .directory mode
  | .file bytes _ => .file bytes mode

def isDirectory : Node → Bool
  | .directory _ => true
  | .file _ _ => false

def contents : Node → Option (List UInt8)
  | .directory _ => none
  | .file bytes _ => some bytes

end Node

/-- What is found at each place. -/
abbrev Tree := Place → Option Node

def isDirectoryAt (tree : Tree) (place : Place) : Bool := (tree place).any Node.isDirectory

def contentsAt (tree : Tree) (place : Place) : Option (List UInt8) := (tree place).bind Node.contents

inductive Call where
  | makeDirectory (place : Place)
  /-- Open for writing, with nothing in the file. -/
  | truncate (place : Place)
  | append (place : Place) (bytes : List UInt8)
  | setMode (place : Place) (mode : Nat)

def Call.place : Call → Place
  | .makeDirectory place | .truncate place | .append place _ | .setMode place _ => place

/-- A mode without the bits of the umask. -/
def masked (umask mode : Nat) : Nat := mode - (mode &&& umask)

section

variable (umask : Nat)

def newDirectory : Node := .directory (masked umask 0o777)

def newFile : Node := .file [] (masked umask 0o666)

/-- A directory that is there already is no failure. -/
def madeDirectory : Option Node → Option Node
  | none => some (newDirectory umask)
  | some (.directory mode) => some (.directory mode)
  | some (.file _ _) => none

def opened : Option Node → Option Node
  | none => some (newFile umask)
  | some (.file _ mode) => some (.file [] mode)
  | some (.directory _) => none

/-- What the call makes of the node at its place. -/
def Call.update (tree : Tree) : Call → Option Node
  | .makeDirectory place =>
      if isDirectoryAt tree place.dropLast then madeDirectory umask (tree place) else none
  | .truncate place => if isDirectoryAt tree place.dropLast then opened umask (tree place) else none
  | .append place more =>
      match tree place with
      | some (.file bytes mode) => some (.file (bytes ++ more) mode)
      | _ => none
  | .setMode place mode => (tree place).map (Node.withMode mode)

def Call.perform (call : Call) (tree : Tree) : Option Tree :=
  (call.update umask tree).map fun node => Function.update tree call.place (some node)

def performCalls : List Call → Tree → Option Tree
  | [], tree => some tree
  | call :: rest, tree => (call.perform umask tree).bind (performCalls rest)

/-- Calls of which the last may fail, or leave out the end of what it appends. -/
inductive Breaks : List Call → Tree → Tree → Prop
  | stop (calls : List Call) (tree : Tree) : Breaks calls tree tree
  | partly {place : Place} {bytes : List UInt8} {rest : List Call} {tree after : Tree} (count : Nat)
      (appended : (Call.append place (bytes.take count)).perform umask tree = some after) :
      Breaks (.append place bytes :: rest) tree after
  | next {call : Call} {rest : List Call} {tree middle after : Tree}
      (performed : call.perform umask tree = some middle) (breaks : Breaks rest middle after) :
      Breaks (call :: rest) tree after

/-! ### Programs -/

inductive Statement where
  | always (calls : List Call)
  | unlessExists (place : Place) (calls : List Call)

def Statement.calls : Statement → Tree → List Call
  | .always calls, _ => calls
  | .unlessExists place calls, tree => if (tree place).isNone then calls else []

def perform : List Statement → Tree → Option Tree
  | [], tree => some tree
  | statement :: rest, tree => (performCalls umask (statement.calls tree) tree).bind (perform rest)

/-- A program that breaks off somewhere, or does not. -/
inductive Leaves : List Statement → Tree → Tree → Prop
  | stop {statement : Statement} {rest : List Statement} {tree after : Tree}
      (breaks : Breaks umask (statement.calls tree) tree after) : Leaves (statement :: rest) tree after
  | next {statement : Statement} {rest : List Statement} {tree middle after : Tree}
      (performed : performCalls umask (statement.calls tree) tree = some middle)
      (leaves : Leaves rest middle after) : Leaves (statement :: rest) tree after
  | nil (tree : Tree) : Leaves [] tree tree

end

/-- The content of a new file. -/
def write (place : Place) (bytes : List UInt8) : List Call := [.truncate place, .append place bytes]

/-- `std::fs::create_dir_all`: every directory on the way, from the top down. -/
def createDirAll (cwd : Place) (path : List UInt8) : List Call := (ways cwd path).map .makeDirectory

variable {umask : Nat} {call : Call} {calls : List Call} {statement : Statement}
  {program rest : List Statement} {tree middle after : Tree} {place : Place} {places : List Place}
  {bytes : List UInt8} {node : Node}

theorem Call.perform_eq_some : call.perform umask tree = some after ↔
    ∃ node, call.update umask tree = some node ∧
      after = Function.update tree call.place (some node) := by
  simp only [perform, Option.map_eq_some_iff, eq_comm]

theorem Call.perform_other (performed : call.perform umask tree = some after)
    (other : place ≠ call.place) : after place = tree place := by
  obtain ⟨node, _, rfl⟩ := perform_eq_some.mp performed
  exact Function.update_of_ne other _ _

theorem breaks_of_performCalls (performed : performCalls umask calls tree = some after) :
    Breaks umask calls tree after := by
  induction calls generalizing tree with
  | nil =>
      cases performed
      exact .stop _ _
  | cons call rest ih =>
      obtain ⟨middle, first, later⟩ := Option.bind_eq_some_iff.mp performed
      exact .next first (ih later)

theorem performCalls_append (first second : List Call) (tree : Tree) :
    performCalls umask (first ++ second) tree =
      (performCalls umask first tree).bind (performCalls umask second) := by
  induction first generalizing tree with
  | nil => rfl
  | cons call rest ih =>
      rw [List.cons_append, performCalls, performCalls, Option.bind_assoc]
      exact congrArg _ (funext ih)

theorem performCalls_one : performCalls umask [call] tree = call.perform umask tree := by
  rw [performCalls]
  cases call.perform umask tree <;> rfl

/-! ### Invariants -/

/-- What every call keeps, in whole or in part, the calls keep. -/
theorem Breaks.invariant (Inv : Tree → Prop) (breaks : Breaks umask calls tree after)
    (each : ∀ call ∈ calls, ∀ before after, Inv before → call.perform umask before = some after → Inv after)
    (parts : ∀ place bytes, .append place bytes ∈ calls → ∀ count before after, Inv before →
      (Call.append place (bytes.take count)).perform umask before = some after → Inv after)
    (holds : Inv tree) : Inv after := by
  induction breaks with
  | stop => exact holds
  | partly count appended => exact parts _ _ List.mem_cons_self count _ _ holds appended
  | next performed _ ih =>
      exact ih (fun call member => each call (List.mem_cons_of_mem _ member))
        (fun place bytes member => parts place bytes (List.mem_cons_of_mem _ member))
        (each _ List.mem_cons_self _ _ holds performed)

/-- What every statement keeps, wherever it breaks off, the program keeps. -/
theorem Leaves.invariant (Inv : Tree → Prop) (leaves : Leaves umask program tree after)
    (each : ∀ statement ∈ program, ∀ before after, Inv before →
      Breaks umask (statement.calls before) before after → Inv after)
    (holds : Inv tree) : Inv after := by
  induction leaves with
  | stop breaks => exact each _ List.mem_cons_self _ _ holds breaks
  | next performed _ ih =>
      exact ih (fun statement member => each statement (List.mem_cons_of_mem _ member))
        (each _ List.mem_cons_self _ _ holds (breaks_of_performCalls performed))
  | nil => exact holds

theorem Breaks.other (breaks : Breaks umask calls tree after)
    (other : ∀ call ∈ calls, place ≠ call.place) : after place = tree place := by
  refine breaks.invariant (fun later => later place = tree place) ?_ ?_ rfl
  · intro call member before later same performed
    rw [Call.perform_other performed (other call member), same]
  · intro path bytes member count before later same appended
    have different : place ≠ path := other _ member
    rw [Call.perform_other appended different, same]

theorem Breaks.append_cases {first second : List Call}
    (breaks : Breaks umask (first ++ second) tree after) :
    Breaks umask first tree after ∨
      ∃ middle, performCalls umask first tree = some middle ∧ Breaks umask second middle after := by
  induction first generalizing tree with
  | nil => exact .inr ⟨tree, rfl, breaks⟩
  | cons call rest ih =>
      cases breaks with
      | stop => exact .inl (.stop _ _)
      | partly count appended => exact .inl (.partly count appended)
      | next performed breaks =>
          rcases ih breaks with within | ⟨middle, whole, later⟩
          · exact .inl (.next performed within)
          · refine .inr ⟨middle, ?_, later⟩
            rw [performCalls, performed, Option.bind_some, whole]

/-! ### Modes -/

theorem Call.perform_setMode {mode : Nat} (isNode : tree place = some node) :
    (Call.setMode place mode).perform umask tree =
      some (Function.update tree place (some (node.withMode mode))) := by
  simp only [perform, Call.place, update, isNode, Option.map_some]

theorem performCalls_setMode {mode : Nat}
    (performed : performCalls umask [.setMode place mode] tree = some after) :
    ∃ node, tree place = some node ∧ after = Function.update tree place (some (node.withMode mode)) := by
  rw [performCalls_one] at performed
  obtain ⟨changed, isChanged, rfl⟩ := Call.perform_eq_some.mp performed
  obtain ⟨node, isNode, rfl⟩ := Option.map_eq_some_iff.mp isChanged
  exact ⟨node, isNode, rfl⟩

/-! ### Directories -/

theorem isDirectoryAt_iff :
    isDirectoryAt tree place = true ↔ ∃ mode, tree place = some (.directory mode) := by
  rw [isDirectoryAt]
  cases tree place with
  | none => simp
  | some node => cases node <;> simp [Node.isDirectory]

theorem Call.perform_makeDirectory
    (performed : (Call.makeDirectory place).perform umask tree = some after) :
    (∃ mode, tree place = some (.directory mode)) ∧ after = tree ∨
      tree place = none ∧ after = Function.update tree place (some (newDirectory umask)) := by
  obtain ⟨node, isNode, rfl⟩ := perform_eq_some.mp performed
  rw [update] at isNode
  split at isNode
  · cases found : tree place with
    | none =>
        rw [found, madeDirectory] at isNode
        exact .inr ⟨rfl, by rw [← Option.some.inj isNode]; rfl⟩
    | some old =>
        cases old with
        | directory mode =>
            rw [found, madeDirectory] at isNode
            refine .inl ⟨⟨mode, rfl⟩, ?_⟩
            rw [Call.place, ← isNode, ← found, Function.update_eq_self]
        | file bytes mode =>
            rw [found] at isNode
            cases isNode
  · cases isNode

theorem Call.isDirectoryAt_makeDirectory
    (performed : (Call.makeDirectory place).perform umask tree = some after) :
    isDirectoryAt after place = true := by
  rcases perform_makeDirectory performed with ⟨isDirectory, rfl⟩ | ⟨_, rfl⟩
  · exact isDirectoryAt_iff.mpr isDirectory
  · exact isDirectoryAt_iff.mpr ⟨_, Function.update_self _ _ _⟩

theorem Call.parent_makeDirectory
    (performed : (Call.makeDirectory place).perform umask tree = some after) :
    isDirectoryAt tree place.dropLast = true := by
  obtain ⟨node, isNode, _⟩ := perform_eq_some.mp performed
  rw [update] at isNode
  split at isNode
  · assumption
  · cases isNode

/-- Directories are made only where nothing is. -/
theorem Breaks.directories (breaks : Breaks umask (places.map .makeDirectory) tree after) (place : Place) :
    after place = tree place ∨
      tree place = none ∧ place ∈ places ∧ after place = some (newDirectory umask) := by
  refine breaks.invariant (fun later => later place = tree place ∨
    tree place = none ∧ place ∈ places ∧ later place = some (newDirectory umask)) ?_ ?_ (.inl rfl)
  · intro call member before later holds performed
    obtain ⟨made, inPlaces, rfl⟩ := List.mem_map.mp member
    rcases Call.perform_makeDirectory performed with ⟨_, rfl⟩ | ⟨absent, rfl⟩
    · exact holds
    · by_cases same : place = made
      · subst same
        rcases holds with old | ⟨_, _, present⟩
        · exact .inr ⟨old.symm.trans absent, inPlaces, Function.update_self _ _ _⟩
        · rw [absent] at present
          cases present
      · rwa [Function.update_of_ne same]
  · intro path bytes member
    obtain ⟨_, _, isAppend⟩ := List.mem_map.mp member
    cases isAppend

theorem Breaks.isDirectoryAt_kept (breaks : Breaks umask (places.map .makeDirectory) tree after)
    (isDirectory : isDirectoryAt tree place = true) : isDirectoryAt after place = true := by
  rcases breaks.directories place with same | ⟨absent, _⟩
  · rwa [isDirectoryAt, same]
  · rw [isDirectoryAt, absent] at isDirectory
    cases isDirectory

theorem isDirectoryAt_of_performCalls
    (performed : performCalls umask (places.map .makeDirectory) tree = some after) :
    ∀ place ∈ places, isDirectoryAt after place = true ∧ isDirectoryAt after place.dropLast = true := by
  induction places generalizing tree with
  | nil => exact fun _ member => absurd member List.not_mem_nil
  | cons place rest ih =>
      obtain ⟨middle, first, later⟩ := Option.bind_eq_some_iff.mp performed
      have made : Breaks umask ([place].map .makeDirectory) tree middle := .next first (.stop _ _)
      have parent := made.isDirectoryAt_kept (Call.parent_makeDirectory first)
      have kept := breaks_of_performCalls later
      exact List.forall_mem_cons.mpr ⟨⟨kept.isDirectoryAt_kept (Call.isDirectoryAt_makeDirectory first),
        kept.isDirectoryAt_kept parent⟩, ih later⟩

theorem Call.makeDirectory_old (isDirectory : isDirectoryAt tree place = true)
    (parent : isDirectoryAt tree place.dropLast = true) :
    (Call.makeDirectory place).perform umask tree = some tree := by
  obtain ⟨mode, found⟩ := isDirectoryAt_iff.mp isDirectory
  rw [perform, update, if_pos parent, found, madeDirectory, Option.map_some, Call.place, ← found,
    Function.update_eq_self]

/-- Where every directory is there, making them changes nothing. -/
theorem performCalls_directories_old (present : ∀ place ∈ places,
    isDirectoryAt tree place = true ∧ isDirectoryAt tree place.dropLast = true) :
    performCalls umask (places.map .makeDirectory) tree = some tree := by
  induction places with
  | nil => rfl
  | cons place rest ih =>
      obtain ⟨⟨isDirectory, parent⟩, others⟩ := List.forall_mem_cons.mp present
      rw [List.map_cons, performCalls, Call.makeDirectory_old isDirectory parent, Option.bind_some,
        ih others]

/-! ### Writing a file -/

theorem Call.perform_truncate (performed : (Call.truncate place).perform umask tree = some after) :
    isDirectoryAt tree place.dropLast = true ∧
      ∃ mode, after = Function.update tree place (some (.file [] mode)) := by
  obtain ⟨node, isNode, rfl⟩ := perform_eq_some.mp performed
  rw [update] at isNode
  split at isNode
  · rename_i parent
    refine ⟨parent, ?_⟩
    cases found : tree place with
    | none =>
        rw [found] at isNode
        exact ⟨_, by rw [← Option.some.inj isNode]; rfl⟩
    | some old =>
        cases old with
        | directory mode =>
            rw [found] at isNode
            cases isNode
        | file bytes mode =>
            rw [found] at isNode
            exact ⟨mode, by rw [← Option.some.inj isNode]; rfl⟩
  · cases isNode

theorem Call.perform_append {old : List UInt8} {mode : Nat} (isFile : tree place = some (.file old mode))
    (more : List UInt8) : (Call.append place more).perform umask tree =
      some (Function.update tree place (some (.file (old ++ more) mode))) := by
  simp only [perform, Call.place, update, isFile, Option.map_some]

/-- Wherever it breaks off, writing a file leaves a part of the content in it. -/
theorem Breaks.write (breaks : Breaks umask (write place bytes) tree after) :
    after = tree ∨
      ∃ count mode, after = Function.update tree place (some (.file (bytes.take count) mode)) := by
  cases breaks with
  | stop => exact .inl rfl
  | next opened breaks =>
      obtain ⟨_, mode, rfl⟩ := Call.perform_truncate opened
      have isEmpty : Function.update tree place (some (Node.file [] mode)) place = some (.file [] mode) :=
        Function.update_self _ _ _
      cases breaks with
      | stop => exact .inr ⟨0, mode, rfl⟩
      | partly count appended =>
          rw [Call.perform_append isEmpty, Function.update_idem] at appended
          exact .inr ⟨count, mode, (Option.some.inj appended).symm⟩
      | next appended breaks =>
          rw [Call.perform_append isEmpty, Function.update_idem] at appended
          obtain rfl := Option.some.inj appended
          cases breaks with
          | stop => exact .inr ⟨bytes.length, mode, by rw [List.take_length]; rfl⟩

/-- A new file can be written into a directory, and then holds the content. -/
theorem performCalls_write_new (absent : tree place = none)
    (parent : isDirectoryAt tree place.dropLast = true) :
    performCalls umask (write place bytes) tree =
      some (Function.update tree place (some (.file bytes (masked umask 0o666)))) := by
  have opened : (Call.truncate place).perform umask tree =
      some (Function.update tree place (some (.file [] (masked umask 0o666)))) := by
    rw [Call.perform, Call.update, if_pos parent, absent]
    rfl
  rw [write, performCalls, opened, Option.bind_some, performCalls,
    Call.perform_append (Function.update_self _ _ _), Option.bind_some, performCalls,
    Function.update_idem, List.nil_append]

theorem performCalls_write (performed : performCalls umask (write place bytes) tree = some after) :
    isDirectoryAt tree place.dropLast = true ∧
      ∃ mode, after = Function.update tree place (some (.file bytes mode)) := by
  obtain ⟨middle, opened, appended⟩ := Option.bind_eq_some_iff.mp performed
  obtain ⟨parent, mode, rfl⟩ := Call.perform_truncate opened
  have isEmpty : Function.update tree place (some (Node.file [] mode)) place = some (.file [] mode) :=
    Function.update_self _ _ _
  rw [performCalls, Call.perform_append isEmpty, Function.update_idem] at appended
  exact ⟨parent, mode, (Option.some.inj appended).symm⟩

/-! ### What is in a file -/

/-- The call leaves what is in the file at a place. -/
def Call.Quiet (place : Place) : Call → Prop
  | .makeDirectory _ | .setMode _ _ => True
  | .truncate other | .append other _ => place ≠ other

theorem Call.contentsAt_of_quiet (performed : call.perform umask tree = some after)
    (quiet : call.Quiet place) : contentsAt after place = contentsAt tree place := by
  cases call with
  | makeDirectory made =>
      rcases perform_makeDirectory performed with ⟨_, rfl⟩ | ⟨absent, rfl⟩
      · rfl
      · by_cases same : place = made
        · subst same
          rw [contentsAt, contentsAt, absent, Function.update_self]
          rfl
        · rw [contentsAt, Function.update_of_ne same, contentsAt]
  | setMode changed mode =>
      rw [← performCalls_one] at performed
      obtain ⟨node, isNode, rfl⟩ := performCalls_setMode performed
      by_cases same : place = changed
      · subst same
        rw [contentsAt, contentsAt, isNode, Function.update_self]
        cases node <;> rfl
      · rw [contentsAt, Function.update_of_ne same, contentsAt]
  | truncate other | append other bytes =>
      rw [contentsAt, perform_other performed quiet, contentsAt]

theorem Breaks.contentsAt_of_quiet (breaks : Breaks umask calls tree after)
    (quiet : ∀ call ∈ calls, call.Quiet place) : contentsAt after place = contentsAt tree place := by
  refine breaks.invariant (fun later => contentsAt later place = contentsAt tree place) ?_ ?_ rfl
  · intro call member before later same performed
    rw [Call.contentsAt_of_quiet performed (quiet call member), same]
  · intro other bytes member count before later same appended
    have different : place ≠ other := quiet _ member
    rw [Call.contentsAt_of_quiet appended different, same]

theorem quiet_createDirAll {cwd : Place} {path : List UInt8} :
    ∀ call ∈ createDirAll cwd path, call.Quiet place := by
  intro call member
  obtain ⟨_, _, rfl⟩ := List.mem_map.mp member
  trivial

end KeyMaster.Data.Files
