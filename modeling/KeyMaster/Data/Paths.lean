import KeyMaster.Data.Utf8
import Mathlib.Data.List.Infix

namespace KeyMaster.Data.Paths

/-! Paths as byte strings, and the places that they lead to where nothing is a
symbolic link. -/

abbrev Name := List UInt8

/-- The names from the root down. -/
abbrev Place := List Name

def slash : UInt8 := 0x2F

/-- `.`. -/
def here : Name := [0x2E]

/-- `..`. -/
def parent : Name := [0x2E, 0x2E]

def components (path : List UInt8) : List Name :=
  (path.splitOn slash).filter fun name => name ≠ [] ∧ name ≠ here

def enter (place : Place) (name : Name) : Place :=
  if name = parent then place.dropLast else place ++ [name]

/-- Where a path starts for a process that works in a directory. -/
def origin (cwd : Place) (path : List UInt8) : Place := if path.head? = some slash then [] else cwd

def locate (cwd : Place) (path : List UInt8) : Place := (components path).foldl enter (origin cwd path)

/-- What is passed through on the way, its end included. -/
def ways (cwd : Place) (path : List UInt8) : List Place :=
  (components path).inits.tail.map fun names => names.foldl enter (origin cwd path)

def withSeparator (base : List UInt8) : List UInt8 :=
  if base = [] ∨ base.getLast? = some slash then base else base ++ [slash]

/-- `Path::join`. -/
def join (base child : List UInt8) : List UInt8 :=
  if child.head? = some slash then child else withSeparator base ++ child

/-- A name that leads to a place of its own. -/
structure Plain (name : Name) : Prop where
  nonempty : name ≠ []
  oneName : slash ∉ name
  notHere : name ≠ here
  notParent : name ≠ parent

/-- A path that a system call takes. -/
structure Path where
  bytes : List UInt8
  nonempty : bytes ≠ []
  noNul : 0 ∉ bytes

variable {cwd : Place} {base child : List UInt8}

theorem Plain.of_long {name : Name} (long : 2 < name.length) (oneName : slash ∉ name) : Plain name := by
  refine ⟨?_, oneName, ?_, ?_⟩ <;>
  · rintro rfl
    exact absurd long (by decide)

theorem Plain.isRelative (plain : Plain child) : child.head? ≠ some slash :=
  fun absolute => plain.oneName (List.mem_of_mem_head? absolute)

theorem components_append (start rest : List UInt8) :
    components (start ++ slash :: rest) = components start ++ components rest := by
  rw [components, List.splitOn_append_cons_self, List.filter_append]
  rfl

theorem components_nil : components [] = [] := rfl

theorem components_plain (plain : Plain child) : components child = [child] := by
  rw [components, Utf8.splitOn_of_not_mem plain.oneName]
  simp [plain.nonempty, plain.notHere]

theorem components_withSeparator (base child : List UInt8) :
    components (withSeparator base ++ child) = components base ++ components child := by
  unfold withSeparator
  split
  · rename_i empty
    rcases empty with rfl | separated
    · rfl
    · obtain ⟨start, rfl⟩ := List.getLast?_eq_some_iff.mp separated
      rw [List.append_assoc, List.singleton_append, components_append, components_append,
        components_nil, List.append_nil]
  · rw [List.append_assoc, List.singleton_append, components_append]

theorem components_join (plain : Plain child) :
    components (join base child) = components base ++ [child] := by
  rw [join, if_neg plain.isRelative, components_withSeparator, components_plain plain]

theorem origin_withSeparator (base child : List UInt8) (isRelative : child.head? ≠ some slash) :
    origin cwd (withSeparator base ++ child) = origin cwd base := by
  have head : (withSeparator base ++ child).head? = some slash ↔ base.head? = some slash := by
    cases base with
    | nil =>
        rw [withSeparator, if_pos (.inl rfl), List.nil_append]
        exact ⟨fun absolute => absurd absolute isRelative, fun absolute => absurd absolute (by decide)⟩
    | cons byte rest =>
        unfold withSeparator
        split <;> rfl
  rw [origin, origin]
  simp only [head]

theorem locate_join (isRelative : child.head? ≠ some slash) :
    locate cwd (join base child) = (components child).foldl enter (locate cwd base) := by
  rw [join, if_neg isRelative, locate, components_withSeparator, origin_withSeparator base child isRelative,
    List.foldl_append, locate]

theorem locate_join_plain (plain : Plain child) :
    locate cwd (join base child) = locate cwd base ++ [child] := by
  rw [locate_join plain.isRelative, components_plain plain, List.foldl_cons, List.foldl_nil, enter,
    if_neg plain.notParent]

theorem locate_mem_ways {path : List UInt8} (leads : components path ≠ []) :
    locate cwd path ∈ ways cwd path := by
  obtain ⟨name, rest, names⟩ := List.exists_cons_of_ne_nil leads
  refine List.mem_map.mpr ⟨components path, ?_, rfl⟩
  rw [names, List.inits_cons, List.tail_cons]
  exact List.mem_map.mpr ⟨rest, (List.mem_inits _ _).mpr (List.prefix_refl _), rfl⟩

end KeyMaster.Data.Paths
