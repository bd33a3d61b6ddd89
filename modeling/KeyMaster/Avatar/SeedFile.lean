import KeyMaster.Data.Runs

namespace KeyMaster.SeedFile

open Data

/-! The seed file over starts of the avatar, each of which may break off between
any two system calls: `resolve_seed`. -/

abbrev Seed := Vector UInt8 32

/-- Where a start stands; a running avatar has its seed in memory. -/
inductive Phase where
  | stopped
  | starting
  /-- There is no seed file. -/
  | absent
  | parentFound
  | probed
  /-- The probe file is removed, or was not to be. -/
  | cleared
  | generated (seed : Seed)
  /-- The file is open, and this many bytes are in it. -/
  | writing (seed : Seed) (count : Nat)
  | written (seed : Seed)
  | running (seed : Seed)

/-- How a start fails, the file aside. -/
inductive Failure where
  | reading
  | size (bytes : Nat)
  | noParent
  | noDirectory
  | notWritable
  | random (error : String)
  | writing
  | permissions

/-- The outermost context of the error. -/
def Failure.message (path parent : String) : Failure → String
  | .reading => "reading seed file: " ++ path
  | .size bytes => "seed file " ++ path ++ " has " ++ toString bytes ++ " bytes, expected 32"
  | .noParent => "seed path has no parent directory: " ++ path
  | .noDirectory =>
      "seed directory does not exist: " ++ parent ++ " — create it or check seed_file config"
  | .notWritable => "seed directory is not writable: " ++ parent ++ " — check ownership/permissions"
  | .random error => "generating random seed: " ++ error
  | .writing => "writing seed file: " ++ path
  | .permissions => "setting seed file permissions"

structure Disk where
  file : Option (List UInt8)
  /-- `.seed-probe` is there. -/
  probe : Bool
  phase : Phase
  /-- The seeds that the starts so far went on with. -/
  resolved : List Seed

namespace Disk

def start : Disk := ⟨none, false, .stopped, []⟩

def resolve (disk : Disk) (seed : Seed) : Disk :=
  { disk with phase := .running seed, resolved := disk.resolved ++ [seed] }

end Disk

inductive Label where
  | start
  | stop
  | missing
  | readSeed
  | findParent
  | writeProbe
  /-- Its failure is ignored. -/
  | removeProbe (removed : Bool)
  | generate (seed : Seed)
  | create
  | write (count : Nat)
  | finishWrite
  | setPermissions
  | fail (failure : Failure)

/-- The failures that a start can meet in a phase. -/
inductive Fails (file : Option (List UInt8)) : Phase → Failure → Prop
  | reading {data : List UInt8} (isFile : file = some data) : Fails file .starting .reading
  | size {data : List UInt8} (isFile : file = some data) (wrong : data.length ≠ 32) :
      Fails file .starting (.size data.length)
  | noParent : Fails file .absent .noParent
  | noDirectory : Fails file .absent .noDirectory
  | notWritable : Fails file .parentFound .notWritable
  | random (error : String) : Fails file .cleared (.random error)
  | creating (seed : Seed) : Fails file (.generated seed) .writing
  | writing (seed : Seed) (count : Nat) : Fails file (.writing seed count) .writing
  | permissions (seed : Seed) : Fails file (.written seed) .permissions

/-- One system call.  That the file is there is what `exists` says. -/
inductive Step : Disk → Label → Disk → Prop
  | start {disk : Disk} (stopped : disk.phase = .stopped) :
      Step disk .start { disk with phase := .starting }
  /-- The process ends or is killed, wherever it is. -/
  | stop (disk : Disk) : Step disk .stop { disk with phase := .stopped }
  | missing {disk : Disk} (starting : disk.phase = .starting) (none : disk.file = none) :
      Step disk .missing { disk with phase := .absent }
  | readSeed {disk : Disk} {seed : Seed} (starting : disk.phase = .starting)
      (isSeed : disk.file = some seed.toList) : Step disk .readSeed (disk.resolve seed)
  | findParent {disk : Disk} (absent : disk.phase = .absent) :
      Step disk .findParent { disk with phase := .parentFound }
  | writeProbe {disk : Disk} (parentFound : disk.phase = .parentFound) :
      Step disk .writeProbe { disk with probe := true, phase := .probed }
  | removeProbe {disk : Disk} (removed : Bool) (probed : disk.phase = .probed) :
      Step disk (.removeProbe removed) { disk with probe := !removed, phase := .cleared }
  | generate {disk : Disk} (seed : Seed) (cleared : disk.phase = .cleared) :
      Step disk (.generate seed) { disk with phase := .generated seed }
  | create {disk : Disk} {seed : Seed} (generated : disk.phase = .generated seed) :
      Step disk .create { disk with file := some [], phase := .writing seed 0 }
  | write {disk : Disk} {seed : Seed} {written : Nat} (count : Nat)
      (writing : disk.phase = .writing seed written) :
      Step disk (.write count)
        { disk with
          file := some (seed.toList.take (written + count))
          phase := .writing seed (written + count) }
  | finishWrite {disk : Disk} {seed : Seed} {written : Nat}
      (writing : disk.phase = .writing seed written) (whole : 32 ≤ written) :
      Step disk .finishWrite { disk with phase := .written seed }
  | setPermissions {disk : Disk} {seed : Seed} (written : disk.phase = .written seed) :
      Step disk .setPermissions (disk.resolve seed)
  | fail {disk : Disk} {failure : Failure} (fails : Fails disk.file disk.phase failure) :
      Step disk (.fail failure) { disk with phase := .stopped }

/-! ### The file and the seeds -/

/-- No start is making the file. -/
def Phase.IsSettled : Phase → Prop
  | .stopped | .starting | .running _ => True
  | _ => False

/-- The file in the making is part of a seed that nobody has. -/
def Disk.Fits (disk : Disk) : Prop :=
  match disk.phase with
  | .absent | .parentFound | .probed | .cleared | .generated _ => disk.file = none ∧ disk.resolved = []
  | .writing seed count => disk.file = some (seed.toList.take count) ∧ disk.resolved = []
  | .written seed => disk.file = some seed.toList ∧ disk.resolved = []
  | .stopped | .starting | .running _ => True

structure Coherent (disk : Disk) : Prop where
  fits : disk.Fits
  agree : ∀ seed ∈ disk.resolved, disk.file = some seed.toList

variable {before after disk : Disk} {label : Label} {content : List UInt8} {seed : Seed}

theorem Coherent.resolve (coherent : Coherent disk) (isSeed : disk.file = some seed.toList) :
    Coherent (disk.resolve seed) where
  fits := trivial
  agree other member := by
    rcases List.mem_append.mp member with old | new
    · exact coherent.agree other old
    · rw [List.mem_singleton.mp new]
      exact isSeed

theorem Coherent.unresolved (coherent : Coherent disk) (none : disk.file = none) : disk.resolved = [] := by
  apply List.eq_nil_iff_forall_not_mem.mpr
  intro seed member
  have isSeed := coherent.agree seed member
  rw [none] at isSeed
  cases isSeed

theorem Step.coherent (step : Step before label after) (coherent : Coherent before) : Coherent after := by
  have fits := coherent.fits
  unfold Disk.Fits at fits
  cases step with
  | start | stop | fail => exact ⟨trivial, coherent.agree⟩
  | missing starting none => exact ⟨⟨none, coherent.unresolved none⟩, coherent.agree⟩
  | readSeed starting isSeed => exact coherent.resolve isSeed
  | findParent inPhase | writeProbe inPhase | removeProbe removed inPhase | generate seed inPhase =>
      rw [inPhase] at fits
      exact ⟨fits, coherent.agree⟩
  | create inPhase =>
      rw [inPhase] at fits
      refine ⟨⟨rfl, fits.2⟩, ?_⟩
      rw [fits.2]
      simp
  | write count inPhase =>
      rw [inPhase] at fits
      refine ⟨⟨rfl, fits.2⟩, ?_⟩
      rw [fits.2]
      simp
  | finishWrite inPhase whole =>
      rw [inPhase] at fits
      refine ⟨⟨?_, fits.2⟩, coherent.agree⟩
      rw [fits.1, List.take_of_length_le (by simpa using whole)]
  | setPermissions inPhase =>
      rw [inPhase] at fits
      exact coherent.resolve fits.1

/-! ### From a file on -/

/-- A file that is there, and none in the making. -/
def Holds (content : List UInt8) (resolved : List Seed) (disk : Disk) : Prop :=
  disk.file = some content ∧ disk.phase.IsSettled ∧ (content.length ≠ 32 → disk.resolved = resolved)

theorem Step.holds {resolved : List Seed} (step : Step before label after)
    (holds : Holds content resolved before) : Holds content resolved after := by
  obtain ⟨isFile, settled, same⟩ := holds
  cases step with
  | start | stop | fail => exact ⟨isFile, trivial, same⟩
  | missing starting none =>
      rw [none] at isFile
      cases isFile
  | readSeed starting isSeed =>
      refine ⟨isFile, trivial, fun wrong => absurd ?_ wrong⟩
      rw [isSeed] at isFile
      rw [← Option.some.inj isFile, Vector.length_toList]
  | findParent inPhase | writeProbe inPhase | removeProbe removed inPhase | generate seed inPhase
  | create inPhase | write count inPhase | finishWrite inPhase | setPermissions inPhase =>
      rw [inPhase] at settled
      exact settled.elim

def Label.Succeeds : Label → Prop
  | .stop | .fail _ => False
  | _ => True

/-- A start that nothing goes wrong with. -/
theorem exists_start (stopped : disk.phase = .stopped)
    (whole : ∀ content, disk.file = some content → content.length = 32) (fresh : Seed) :
    ∃ trace later seed, Run Step disk trace later ∧
      (∀ transition ∈ trace, transition.label.Succeeds) ∧
      later.phase = .running seed ∧ later.resolved = disk.resolved ++ [seed] := by
  cases isFile : disk.file with
  | some content =>
      have isSeed : disk.file = some (⟨content.toArray, whole content isFile⟩ : Seed).toList := isFile
      refine ⟨_, _, _, .cons (.start stopped) <| .cons (.readSeed rfl isSeed) <| .nil _, ?_, rfl, rfl⟩
      simp [Label.Succeeds]
  | none =>
      refine ⟨_, _, fresh,
        .cons (.start stopped) <|
        .cons (.missing rfl isFile) <|
        .cons (.findParent rfl) <|
        .cons (.writeProbe rfl) <|
        .cons (.removeProbe true rfl) <|
        .cons (.generate fresh rfl) <|
        .cons (.create rfl) <|
        .cons (.write 32 rfl) <|
        .cons (.finishWrite rfl (Nat.le_refl _)) <|
        .cons (.setPermissions rfl) <|
        .nil _, ?_, rfl, rfl⟩
      simp [Label.Succeeds]

/-! ### Over starts and crashes -/

/-- All starts that went on did so with one seed, the one in the file.  A file
that is there stays as it is, and if it is torn no start goes on with it; if it
is whole or missing, a start can go on. -/
structure Keeps (disk : Disk) : Prop where
  agree : ∀ seed ∈ disk.resolved, disk.file = some seed.toList
  stays : ∀ content, disk.file = some content → disk.phase.IsSettled →
    ∀ trace later, Run Step disk trace later →
      later.file = some content ∧ (content.length ≠ 32 → later.resolved = disk.resolved)
  starts : disk.phase = .stopped → (∀ content, disk.file = some content → content.length = 32) →
    ∀ _fresh : Seed, ∃ trace later seed, Run Step disk trace later ∧
      (∀ transition ∈ trace, transition.label.Succeeds) ∧
      later.phase = .running seed ∧ later.resolved = disk.resolved ++ [seed]

theorem coherent_start : Coherent .start := ⟨trivial, by simp [Disk.start]⟩

theorem reachable_coherent (reachable : Reachable Step .start disk) : Coherent disk :=
  reachable.invariant Coherent (fun _ _ _ step => step.coherent) coherent_start

theorem reachable_keeps (reachable : Reachable Step .start disk) : Keeps disk where
  agree := (reachable_coherent reachable).agree
  stays content isFile settled trace later run := by
    have holds := Reachable.invariant (Holds content disk.resolved) (fun _ _ _ step => step.holds)
      ⟨isFile, settled, fun _ => rfl⟩ ⟨trace, run⟩
    exact ⟨holds.1, holds.2.2⟩
  starts := exists_start

def sampleSeed : Seed := Vector.replicate 32 7

/-- A start is killed while it writes, and the next one finds the file. -/
theorem torn_keeps : ∃ disk, Reachable Step .start disk ∧ disk.file = some [7, 7, 7, 7, 7] ∧
    disk.phase = .starting ∧ Keeps disk := by
  have reachable : Reachable Step .start ⟨some [7, 7, 7, 7, 7], false, .starting, []⟩ := ⟨_,
    .cons (.start rfl) <|
    .cons (.missing rfl rfl) <|
    .cons (.findParent rfl) <|
    .cons (.writeProbe rfl) <|
    .cons (.removeProbe true rfl) <|
    .cons (.generate sampleSeed rfl) <|
    .cons (.create rfl) <|
    .cons (.write 5 rfl) <|
    .cons (.stop _) <|
    .cons (.start rfl) <|
    .nil _⟩
  exact ⟨_, reachable, rfl, rfl, reachable_keeps reachable⟩

end KeyMaster.SeedFile
