import KeyMaster.Data.Files
import KeyMaster.Data.Runs
import KeyMaster.Text
import Mathlib.Data.List.Nodup

namespace KeyMaster.GpgSa

open Data Files Paths

/-! What `km-gpg-sa` leaves in GNUPGHOME: its socket for the shim to find, and
stubs of the card keys. -/

def fileName (name : String) : Name := Utf8.encode name.toList

/-! ### `setup_gnupg_home` -/

/-- `Path::display`. -/
def display (path : Path) : String := String.ofList (Utf8.decodeLossy path.bytes)

def agentConf (gnupgHome : Path) (scdaemonProgram : String) : String :=
  "scdaemon-program " ++ scdaemonProgram ++ "\n" ++
  "allow-loopback-pinentry\n" ++
  "pinentry-program " ++ display gnupgHome ++ "/pinentry-iz.sh\n" ++
  "log-file " ++ display gnupgHome ++ "/gpg-agent.log\n" ++
  "verbose\n"

def pinentry : String :=
  "#!/bin/bash\n" ++
  "echo \"OK Pleased to meet you\"\n" ++
  "while IFS= read -r cmd; do\n" ++
  "case \"$\x7bcmd%% *\x7d\" in\n" ++
  "GETPIN) echo \"D\"; echo \"OK\";;\n" ++
  "BYE) echo \"OK\"; exit 0;;\n" ++
  "*) echo \"OK\";;\n" ++
  "esac\n" ++
  "done\n"

section

variable (cwd : Place) (gnupgHome : Path) (certArmor scdaemonProgram : String) (gpgSocket : List UInt8)

def homePlace : Place := locate cwd gnupgHome.bytes

def certFile : Place := locate cwd (join gnupgHome.bytes (fileName "keymaster-public.asc"))

def agentConfFile : Place := locate cwd (join gnupgHome.bytes (fileName "gpg-agent.conf"))

def pinentryFile : Place := locate cwd (join gnupgHome.bytes (fileName "pinentry-iz.sh"))

def socketFile : Place := locate cwd (join gnupgHome.bytes (fileName "km-gpg-sa.socket"))

def writeText (place : Place) (text : String) : Statement := .always (write place (Utf8.encode text.toList))

def setupGnupgHome : List Statement :=
  [.always (createDirAll cwd gnupgHome.bytes),
   .always [.setMode (homePlace cwd gnupgHome) 0o700],
   writeText (certFile cwd gnupgHome) certArmor,
   writeText (agentConfFile cwd gnupgHome) (agentConf gnupgHome scdaemonProgram),
   writeText (pinentryFile cwd gnupgHome) pinentry,
   .always [.setMode (pinentryFile cwd gnupgHome) 0o755],
   .always (write (socketFile cwd gnupgHome) (Utf8.encode (Utf8.decodeLossy gpgSocket)))]

/-! ### `find_socket_path` of the shim -/

def defaultSocket : List Char := "/tmp/keymaster-avatar-gpg.sock".toList

/-- `std::env::var`, which fails on what is no UTF-8. -/
def envVar (value : Option (List UInt8)) : Option (List Char) := value.bind Utf8.decode

/-- The path that a socket file has in it. -/
def socketIn (contents : List UInt8) : Option (List Char) :=
  (Utf8.decode contents).bind fun text => if trim text = [] then none else some (trim text)

def foundSocket (home : List Char) (tree : Tree) : Option (List Char) :=
  (contentsAt tree (locate cwd (join (Utf8.encode home) (fileName "km-gpg-sa.socket")))).bind socketIn

/-- Given `KM_GPG_SA_SOCKET` and `GNUPGHOME`, where they are set. -/
def findSocketPath (socketVar gnupgHomeVar : Option (List UInt8)) (tree : Tree) : List UInt8 :=
  match envVar socketVar with
  | some path => Utf8.encode path
  | none => Utf8.encode
      (((envVar gnupgHomeVar).bind fun home => foundSocket cwd home tree).getD defaultSocket)

/-! ### Stubs of the card keys -/

def stub : List UInt8 := Utf8.encode "(shadowed-private-key)\n".toList

def privkeysDir : List UInt8 := join gnupgHome.bytes (fileName "private-keys-v1.d")

def stubPlace (keygrip : String) : Place :=
  locate cwd (join (privkeysDir gnupgHome) (fileName (keygrip ++ ".key")))

def withoutReturn (line : List Char) : List Char :=
  if line.getLast? = some '\r' then line.dropLast else line

/-- `str::lines`. -/
def linesOf (text : List Char) : List (List Char) :=
  let pieces := text.splitOn '\n'
  pieces.dropLast.map withoutReturn ++ pieces.getLast?.toList.filter (· ≠ [])

/-- The keygrip on a line that `gpg --with-colons` prints. -/
def gripOf (line : List Char) : Option String :=
  if "grp:".toList <+: line then
    (line.splitOn ':')[9]?.bind fun field =>
      if (String.ofList field).utf8ByteSize = 40 then some (String.ofList field) else none
  else none

def createStub (keygrip : String) : Statement :=
  .unlessExists (stubPlace cwd gnupgHome keygrip)
    (write (stubPlace cwd gnupgHome keygrip) stub ++ [.setMode (stubPlace cwd gnupgHome keygrip) 0o600])

/-- The keygrips in what `gpg --list-keys` prints, where it succeeds. -/
def listedGrips (stdout : Option (List UInt8)) : List String :=
  stdout.elim [] fun bytes => (linesOf (Utf8.decodeLossy bytes)).filterMap gripOf

def createStubs (stdout : Option (List UInt8)) : List Statement :=
  .always (createDirAll cwd (privkeysDir gnupgHome)) ::
    (listedGrips stdout).map (createStub cwd gnupgHome)

end

/-! ### The home -/

section Setup

variable {umask : Nat} {cwd : Place} {gnupgHome : Path} {certArmor scdaemonProgram : String}
  {gpgSocket : List UInt8} {before after : Tree}

theorem plain_certFile : Plain (fileName "keymaster-public.asc") :=
  ⟨by decide, by decide, by decide, by decide⟩

theorem plain_agentConfFile : Plain (fileName "gpg-agent.conf") :=
  ⟨by decide, by decide, by decide, by decide⟩

theorem plain_pinentryFile : Plain (fileName "pinentry-iz.sh") :=
  ⟨by decide, by decide, by decide, by decide⟩

theorem plain_socketFile : Plain (fileName "km-gpg-sa.socket") :=
  ⟨by decide, by decide, by decide, by decide⟩

def homePlaces (cwd : Place) (gnupgHome : Path) : List Place :=
  [homePlace cwd gnupgHome, certFile cwd gnupgHome, agentConfFile cwd gnupgHome,
    pinentryFile cwd gnupgHome, socketFile cwd gnupgHome]

theorem homePlaces_eq (cwd : Place) (gnupgHome : Path) : homePlaces cwd gnupgHome =
    homePlace cwd gnupgHome ::
      [fileName "keymaster-public.asc", fileName "gpg-agent.conf", fileName "pinentry-iz.sh",
        fileName "km-gpg-sa.socket"].map fun name => homePlace cwd gnupgHome ++ [name] := by
  simp only [homePlaces, certFile, agentConfFile, pinentryFile, socketFile,
    locate_join_plain plain_certFile, locate_join_plain plain_agentConfFile,
    locate_join_plain plain_pinentryFile, locate_join_plain plain_socketFile]
  rfl

theorem homePlaces_nodup (cwd : Place) (gnupgHome : Path) : (homePlaces cwd gnupgHome).Nodup := by
  rw [homePlaces_eq, List.nodup_cons]
  constructor
  · intro member
    obtain ⟨name, _, same⟩ := List.mem_map.mp member
    have lengths := congrArg List.length same
    simp at lengths
  · refine List.Nodup.map (fun left right same => ?_) (by decide)
    exact List.singleton_inj.mp (List.append_cancel_left same)

/-- The nodes of a home that is set up. -/
structure Prepared (cwd : Place) (gnupgHome : Path) (certArmor scdaemonProgram : String)
    (gpgSocket : List UInt8) (tree : Tree) : Prop where
  home : tree (homePlace cwd gnupgHome) = some (.directory 0o700)
  cert : ∃ mode, tree (certFile cwd gnupgHome) = some (.file (Utf8.encode certArmor.toList) mode)
  agentConf : ∃ mode, tree (agentConfFile cwd gnupgHome) =
    some (.file (Utf8.encode (GpgSa.agentConf gnupgHome scdaemonProgram).toList) mode)
  pinentry : tree (pinentryFile cwd gnupgHome) =
    some (.file (Utf8.encode GpgSa.pinentry.toList) 0o755)
  socket : ∃ mode, tree (socketFile cwd gnupgHome) =
    some (.file (Utf8.encode (Utf8.decodeLossy gpgSocket)) mode)

theorem prepared_of_perform
    (performed : perform umask (setupGnupgHome cwd gnupgHome certArmor scdaemonProgram gpgSocket) before =
      some after) : Prepared cwd gnupgHome certArmor scdaemonProgram gpgSocket after := by
  have distinct := homePlaces_nodup cwd gnupgHome
  simp only [homePlaces, List.nodup_cons, List.mem_cons, List.not_mem_nil, or_false, not_or,
    not_false_eq_true, List.nodup_nil, and_true] at distinct
  obtain ⟨⟨homeCert, homeConf, homePinentry, homeSocket⟩, ⟨certConf, certPinentry, certSocket⟩,
    ⟨confPinentry, confSocket⟩, pinentrySocket⟩ := distinct
  obtain ⟨made, making, performed⟩ := Option.bind_eq_some_iff.mp performed
  obtain ⟨closed, closing, performed⟩ := Option.bind_eq_some_iff.mp performed
  obtain ⟨withCert, certWritten, performed⟩ := Option.bind_eq_some_iff.mp performed
  obtain ⟨withConf, confWritten, performed⟩ := Option.bind_eq_some_iff.mp performed
  obtain ⟨withPinentry, pinentryWritten, performed⟩ := Option.bind_eq_some_iff.mp performed
  obtain ⟨runnable, pinentryMode, performed⟩ := Option.bind_eq_some_iff.mp performed
  obtain ⟨last, socketWritten, performed⟩ := Option.bind_eq_some_iff.mp performed
  obtain rfl := Option.some.inj performed
  obtain ⟨node, _, rfl⟩ := performCalls_setMode closing
  obtain ⟨parent, certMode, rfl⟩ := performCalls_write certWritten
  obtain ⟨_, confMode, rfl⟩ := performCalls_write confWritten
  obtain ⟨_, _, rfl⟩ := performCalls_write pinentryWritten
  obtain ⟨script, isScript, rfl⟩ := performCalls_setMode pinentryMode
  obtain ⟨_, socketMode, rfl⟩ := performCalls_write socketWritten
  -- The certificate could be written only into a directory.
  have isHome : node.withMode 0o700 = .directory 0o700 := by
    have inHome : (certFile cwd gnupgHome).dropLast = homePlace cwd gnupgHome := by
      rw [certFile, locate_join_plain plain_certFile, List.dropLast_concat, homePlace]
    obtain ⟨mode, isDirectory⟩ := isDirectoryAt_iff.mp parent
    rw [inHome, Function.update_self] at isDirectory
    cases node with
    | directory _ => rfl
    | file bytes _ => cases Option.some.inj isDirectory
  constructor
  · simp [homeCert, homeConf, homePinentry, homeSocket, isHome]
  · exact ⟨certMode, by simp [certConf, certPinentry, certSocket]⟩
  · exact ⟨confMode, by simp [confPinentry, confSocket]⟩
  · rw [Function.update_self] at isScript
    obtain rfl := Option.some.inj isScript
    simp [pinentrySocket, Node.withMode]
  · exact ⟨socketMode, Function.update_self _ _ _⟩

/-- Outside the home only directories on the way to it are made. -/
theorem setup_frame
    (leaves : Leaves umask (setupGnupgHome cwd gnupgHome certArmor scdaemonProgram gpgSocket) before after)
    {place : Place} (other : place ∉ homePlaces cwd gnupgHome) :
    after place = before place ∨ before place = none ∧ place ∈ ways cwd gnupgHome.bytes ∧
      after place = some (newDirectory umask) := by
  simp only [homePlaces, List.mem_cons, List.not_mem_nil, or_false, not_or] at other
  refine leaves.invariant (fun tree => tree place = before place ∨ before place = none ∧
    place ∈ ways cwd gnupgHome.bytes ∧ tree place = some (newDirectory umask)) ?_ (.inl rfl)
  intro statement member middle later holds breaks
  have frame : (∀ call ∈ statement.calls middle, place ≠ call.place) →
      later place = before place ∨ before place = none ∧
        place ∈ ways cwd gnupgHome.bytes ∧ later place = some (newDirectory umask) := by
    intro elsewhere
    rwa [breaks.other elsewhere]
  simp only [setupGnupgHome, List.mem_cons, List.not_mem_nil, or_false] at member
  rcases member with rfl | rfl | rfl | rfl | rfl | rfl | rfl
  · rcases breaks.directories place with same | ⟨absent, onWay, made⟩
    · rwa [same]
    · rcases holds with old | ⟨_, _, present⟩
      · exact .inr ⟨old.symm.trans absent, onWay, made⟩
      · rw [absent] at present
        cases present
  · exact frame (by simp [Statement.calls, Call.place, other])
  · exact frame (by simp [writeText, write, Statement.calls, Call.place, other])
  · exact frame (by simp [writeText, write, Statement.calls, Call.place, other])
  · exact frame (by simp [writeText, write, Statement.calls, Call.place, other])
  · exact frame (by simp [Statement.calls, Call.place, other])
  · exact frame (by simp [write, Statement.calls, Call.place, other])

/-! ### The socket file -/

/-- What a setup that breaks off has done to the socket file. -/
theorem socketFile_of_leaves
    (leaves : Leaves umask (setupGnupgHome cwd gnupgHome certArmor scdaemonProgram gpgSocket) before
      after) :
    contentsAt after (socketFile cwd gnupgHome) = contentsAt before (socketFile cwd gnupgHome) ∨
      ∃ count, contentsAt after (socketFile cwd gnupgHome) =
        some ((Utf8.encode (Utf8.decodeLossy gpgSocket)).take count) := by
  have distinct := homePlaces_nodup cwd gnupgHome
  simp only [homePlaces, List.nodup_cons, List.mem_cons, List.not_mem_nil, or_false, not_or,
    not_false_eq_true, List.nodup_nil, and_true] at distinct
  obtain ⟨⟨_, _, _, _⟩, ⟨_, _, certSocket⟩, ⟨_, confSocket⟩, pinentrySocket⟩ := distinct
  refine leaves.invariant (fun tree =>
    contentsAt tree (socketFile cwd gnupgHome) = contentsAt before (socketFile cwd gnupgHome) ∨
      ∃ count, contentsAt tree (socketFile cwd gnupgHome) =
        some ((Utf8.encode (Utf8.decodeLossy gpgSocket)).take count)) ?_ (.inl rfl)
  intro statement member middle later holds breaks
  have frame : (∀ call ∈ statement.calls middle, call.Quiet (socketFile cwd gnupgHome)) →
      contentsAt later (socketFile cwd gnupgHome) = contentsAt before (socketFile cwd gnupgHome) ∨
        ∃ count, contentsAt later (socketFile cwd gnupgHome) =
          some ((Utf8.encode (Utf8.decodeLossy gpgSocket)).take count) := by
    intro quiet
    rwa [breaks.contentsAt_of_quiet quiet]
  simp only [setupGnupgHome, List.mem_cons, List.not_mem_nil, or_false] at member
  rcases member with rfl | rfl | rfl | rfl | rfl | rfl | rfl
  · exact frame quiet_createDirAll
  · exact frame (by simp [Statement.calls, Call.Quiet])
  · exact frame (by simp [writeText, write, Statement.calls, Call.Quiet, Ne.symm certSocket])
  · exact frame (by simp [writeText, write, Statement.calls, Call.Quiet, Ne.symm confSocket])
  · exact frame (by simp [writeText, write, Statement.calls, Call.Quiet, Ne.symm pinentrySocket])
  · exact frame (by simp [Statement.calls, Call.Quiet])
  · rcases Breaks.write breaks with rfl | ⟨count, mode, rfl⟩
    · exact holds
    · refine .inr ⟨count, ?_⟩
      rw [contentsAt, Function.update_self]
      rfl

/-- The path that is found is the one written, exactly if it is UTF-8 without
white space around it. -/
theorem socketIn_lossy_iff :
    Utf8.encode ((socketIn (Utf8.encode (Utf8.decodeLossy gpgSocket))).getD defaultSocket) = gpgSocket ↔
      ∃ text, gpgSocket = Utf8.encode text ∧ trim text = text ∧ text ≠ [] := by
  rw [socketIn, Utf8.decode_encode, Option.bind_some]
  constructor
  · intro found
    have isLossy := congrArg Utf8.decodeLossy found
    rw [Utf8.decodeLossy_encode] at isLossy
    split at isLossy
    · rename_i blank
      rw [Option.getD_none] at isLossy
      rw [← isLossy] at blank
      exact absurd blank (by decide)
    · rename_i shown
      rw [Option.getD_some] at isLossy
      rw [isLossy] at shown
      rw [isLossy, if_neg shown, Option.getD_some] at found
      exact ⟨_, found.symm, isLossy, shown⟩
  · rintro ⟨text, rfl, trimmed, nonempty⟩
    rw [Utf8.decodeLossy_encode, trimmed, if_neg nonempty, Option.getD_some]

theorem findSocketPath_home {home : List Char} (isText : Utf8.decode gnupgHome.bytes = some home)
    (tree : Tree) :
    findSocketPath cwd none (some gnupgHome.bytes) tree =
      Utf8.encode (((contentsAt tree (socketFile cwd gnupgHome)).bind socketIn).getD defaultSocket) := by
  have isSet : envVar (some gnupgHome.bytes) = some home := isText
  have unset : envVar none = none := rfl
  simp only [findSocketPath, unset]
  rw [isSet, Option.bind_some, foundSocket, ← Utf8.decode_eq_some.mp isText, socketFile]

theorem findSocketPath_noText (noText : Utf8.decode gnupgHome.bytes = none) (tree : Tree) :
    findSocketPath cwd none (some gnupgHome.bytes) tree = Utf8.encode defaultSocket := by
  have noValue : envVar (some gnupgHome.bytes) = none := noText
  have unset : envVar none = none := rfl
  simp only [findSocketPath, unset]
  rw [noValue, Option.bind_none, Option.getD_none]

end Setup

def sampleHome : Path := ⟨fileName "/g/home", by decide, by decide⟩

/-- There is nothing but the root. -/
def emptyRoot : Tree := fun place => if place = [] then some (.directory 0o755) else none

example : (perform 0o077 (setupGnupgHome [] sampleHome "cert" "/scd-shim" (fileName "/s"))
    emptyRoot).isSome = true := by
  decide +kernel

/-! ### The stubs -/

section Stubs

variable {umask : Nat} {cwd place : Place} {gnupgHome : Path} {grip : String} {grips : List String}
  {stdout : Option (List UInt8)} {torn : List Place} {before middle after : Tree} {node : Node}

theorem createStub_new (absent : before (stubPlace cwd gnupgHome grip) = none) :
    (createStub cwd gnupgHome grip).calls before =
      write (stubPlace cwd gnupgHome grip) stub ++ [.setMode (stubPlace cwd gnupgHome grip) 0o600] := by
  rw [createStub, Statement.calls, absent, Option.isNone_none, if_pos rfl]

theorem createStub_old (isNode : before (stubPlace cwd gnupgHome grip) = some node) :
    (createStub cwd gnupgHome grip).calls before = [] := by
  rw [createStub, Statement.calls, isNode, Option.isNone_some, if_neg (by decide)]

theorem performCalls_stub (absent : before (stubPlace cwd gnupgHome grip) = none)
    (parent : isDirectoryAt before (stubPlace cwd gnupgHome grip).dropLast = true) :
    performCalls umask ((createStub cwd gnupgHome grip).calls before) before =
      some (Function.update before (stubPlace cwd gnupgHome grip) (some (.file stub 0o600))) := by
  rw [createStub_new absent, performCalls_append, performCalls_write_new absent parent, Option.bind_some,
    performCalls_one, Call.perform_setMode (Function.update_self _ _ _), Function.update_idem,
    Node.withMode]

/-- A stub that is made is made only where nothing is. -/
theorem createStub_performed
    (performed : performCalls umask ((createStub cwd gnupgHome grip).calls before) before = some after) :
    after = before ∨ before (stubPlace cwd gnupgHome grip) = none ∧
      after = Function.update before (stubPlace cwd gnupgHome grip) (some (.file stub 0o600)) := by
  cases absent : before (stubPlace cwd gnupgHome grip) with
  | some node =>
      rw [createStub_old absent] at performed
      exact .inl (Option.some.inj performed).symm
  | none =>
      have whole := performed
      rw [createStub_new absent, performCalls_append] at whole
      obtain ⟨written, writing, _⟩ := Option.bind_eq_some_iff.mp whole
      rw [performCalls_stub absent (performCalls_write writing).1] at performed
      exact .inr ⟨rfl, (Option.some.inj performed).symm⟩

/-- One that breaks off leaves a part of a stub. -/
theorem createStub_breaks
    (breaks : Breaks umask ((createStub cwd gnupgHome grip).calls before) before after) :
    after = before ∨ before (stubPlace cwd gnupgHome grip) = none ∧ ∃ count mode,
      after = Function.update before (stubPlace cwd gnupgHome grip)
        (some (.file (stub.take count) mode)) := by
  cases absent : before (stubPlace cwd gnupgHome grip) with
  | some node =>
      rw [createStub_old absent] at breaks
      cases breaks
      exact .inl rfl
  | none =>
      rw [createStub_new absent] at breaks
      rcases breaks.append_cases with within | ⟨middle, whole, breaks⟩
      · rcases within.write with same | ⟨count, mode, part⟩
        · exact .inl same
        · exact .inr ⟨rfl, count, mode, part⟩
      · obtain ⟨_, mode, rfl⟩ := performCalls_write whole
        refine .inr ⟨rfl, stub.length, ?_⟩
        rw [List.take_length]
        cases breaks with
        | stop => exact ⟨_, rfl⟩
        | next modeSet breaks =>
            rw [Call.perform_setMode (Function.update_self _ _ _), Function.update_idem] at modeSet
            obtain rfl := Option.some.inj modeSet
            cases breaks
            exact ⟨_, rfl⟩

/-- What starts can put where nothing is: directories, whole stubs for the
keygrips, and parts of them at the places where a start was cut short. -/
inductive IsNew (cwd : Place) (gnupgHome : Path) (grips : List String) (torn : List Place) (place : Place) :
    Node → Prop
  | directory (umask : Nat) (onWay : place ∈ ways cwd (privkeysDir gnupgHome)) :
      IsNew cwd gnupgHome grips torn place (newDirectory umask)
  | whole {grip : String} (listed : grip ∈ grips) (isStub : place = stubPlace cwd gnupgHome grip) :
      IsNew cwd gnupgHome grips torn place (.file stub 0o600)
  | part {grip : String} (listed : grip ∈ grips) (isStub : place = stubPlace cwd gnupgHome grip)
      (cut : place ∈ torn) (count mode : Nat) :
      IsNew cwd gnupgHome grips torn place (.file (stub.take count) mode)

/-- Nothing that is there changes. -/
def Adds (cwd : Place) (gnupgHome : Path) (grips : List String) (torn : List Place)
    (before after : Tree) : Prop :=
  ∀ place, after place = before place ∨
    before place = none ∧ ∃ node, after place = some node ∧ IsNew cwd gnupgHome grips torn place node

theorem IsNew.mono {others : List String} {more : List Place}
    (isNew : IsNew cwd gnupgHome grips torn place node)
    (listed : grips ⊆ others) (cut : torn ⊆ more) : IsNew cwd gnupgHome others more place node := by
  cases isNew with
  | directory umask onWay => exact .directory umask onWay
  | whole inGrips isStub => exact .whole (listed inGrips) isStub
  | part inGrips isStub isTorn count mode => exact .part (listed inGrips) isStub (cut isTorn) count mode

theorem Adds.refl (tree : Tree) : Adds cwd gnupgHome grips torn tree tree := fun _ => .inl rfl

theorem Adds.kept (adds : Adds cwd gnupgHome grips torn before after) (isNode : before place = some node) :
    after place = some node := by
  rcases adds place with same | ⟨absent, _⟩
  · rw [same, isNode]
  · rw [absent] at isNode
    cases isNode

theorem Adds.one (absent : before place = none) (isNew : IsNew cwd gnupgHome grips torn place node) :
    Adds cwd gnupgHome grips torn before (Function.update before place (some node)) := by
  intro other
  by_cases same : other = place
  · subst same
    exact .inr ⟨absent, node, Function.update_self _ _ _, isNew⟩
  · exact .inl (Function.update_of_ne same _ _)

theorem Adds.trans {others : List String} {more : List Place}
    (adds : Adds cwd gnupgHome grips torn before middle)
    (later : Adds cwd gnupgHome others more middle after) :
    Adds cwd gnupgHome (grips ++ others) (torn ++ more) before after := by
  intro place
  rcases later place with same | ⟨absent, node, isNode, isNew⟩
  · rw [same]
    rcases adds place with old | ⟨absent, node, isNode, isNew⟩
    · exact .inl old
    · exact .inr ⟨absent, node, isNode,
        isNew.mono (List.subset_append_left _ _) (List.subset_append_left _ _)⟩
  · have unborn : before place = none := by
      cases old : before place with
      | none => rfl
      | some node =>
          rw [adds.kept old] at absent
          cases absent
    exact .inr ⟨unborn, node, isNode,
      isNew.mono (List.subset_append_right _ _) (List.subset_append_right _ _)⟩

theorem directories_add (breaks : Breaks umask (createDirAll cwd (privkeysDir gnupgHome)) before after) :
    Adds cwd gnupgHome grips torn before after := by
  intro place
  rcases breaks.directories place with same | ⟨absent, onWay, made⟩
  · exact .inl same
  · exact .inr ⟨absent, _, made, .directory umask onWay⟩

theorem stub_adds
    (performed : performCalls umask ((createStub cwd gnupgHome grip).calls before) before = some after) :
    Adds cwd gnupgHome [grip] [] before after := by
  rcases createStub_performed performed with rfl | ⟨absent, rfl⟩
  · exact .refl _
  · exact .one absent (.whole List.mem_cons_self rfl)

theorem stubs_add (performed : perform umask (grips.map (createStub cwd gnupgHome)) before = some after) :
    Adds cwd gnupgHome grips [] before after := by
  induction grips generalizing before with
  | nil =>
      obtain rfl := Option.some.inj performed
      exact .refl _
  | cons grip rest ih =>
      obtain ⟨middle, first, later⟩ := Option.bind_eq_some_iff.mp performed
      exact (stub_adds first).trans (ih later)

/-- The stubs before the one where a start breaks off are whole. -/
theorem stubs_leave (leaves : Leaves umask (grips.map (createStub cwd gnupgHome)) before after) :
    ∃ torn, torn.length ≤ 1 ∧ Adds cwd gnupgHome grips torn before after := by
  induction grips generalizing before with
  | nil =>
      cases leaves
      exact ⟨[], Nat.zero_le _, .refl _⟩
  | cons grip rest ih =>
      cases leaves with
      | stop breaks =>
          refine ⟨[stubPlace cwd gnupgHome grip], Nat.le_refl _, ?_⟩
          rcases createStub_breaks breaks with rfl | ⟨absent, count, mode, rfl⟩
          · exact .refl _
          · exact .one absent (.part List.mem_cons_self rfl List.mem_cons_self count mode)
      | next performed leaves =>
          obtain ⟨torn, few, adds⟩ := ih leaves
          exact ⟨torn, few, (stub_adds performed).trans adds⟩

theorem createStubs_add (performed : perform umask (createStubs cwd gnupgHome stdout) before = some after) :
    Adds cwd gnupgHome (listedGrips stdout) [] before after := by
  obtain ⟨middle, made, stubs⟩ := Option.bind_eq_some_iff.mp performed
  have directories : Adds cwd gnupgHome [] [] before middle :=
    directories_add (breaks_of_performCalls made)
  exact directories.trans (stubs_add stubs)

theorem createStubs_leave (leaves : Leaves umask (createStubs cwd gnupgHome stdout) before after) :
    ∃ torn, torn.length ≤ 1 ∧ Adds cwd gnupgHome (listedGrips stdout) torn before after := by
  cases leaves with
  | stop breaks => exact ⟨[], Nat.zero_le _, directories_add breaks⟩
  | next performed leaves =>
      obtain ⟨torn, few, adds⟩ := stubs_leave leaves
      have directories : Adds cwd gnupgHome [] [] before _ :=
        directories_add (breaks_of_performCalls performed)
      exact ⟨torn, few, directories.trans adds⟩

/-! ### What gpg prints -/

/-- A record of `gpg --with-colons`. -/
inductive Record where
  | grp (keygrip : String)
  | other (line : List Char)

namespace Record

/-- What stands before the keygrip. -/
def emptyFields : List Char := "grp:::::::::".toList

def print : Record → List Char
  | .grp keygrip => emptyFields ++ (keygrip.toList ++ [':'])
  | .other line => line

def WellFormed : Record → Prop
  | .grp keygrip => keygrip.utf8ByteSize = 40 ∧ ':' ∉ keygrip.toList ∧ '\n' ∉ keygrip.toList ∧
      '/' ∉ keygrip.toList
  | .other line => '\n' ∉ line ∧ ¬ "grp:".toList <+: line

def keygrip : Record → Option String
  | .grp keygrip => some keygrip
  | .other _ => none

end Record

def printed (records : List Record) : List UInt8 := Utf8.encode (records.flatMap (·.print ++ ['\n']))

theorem linesOf_flatMap {lines : List (List Char)} (oneLine : ∀ line ∈ lines, '\n' ∉ line) :
    linesOf (lines.flatMap (· ++ ['\n'])) = lines.map withoutReturn := by
  rw [linesOf, Utf8.splitOn_lines oneLine, List.dropLast_concat, List.getLast?_concat]
  exact List.append_nil _

theorem gripOf_grp {keygrip : String} (size : keygrip.utf8ByteSize = 40) (field : ':' ∉ keygrip.toList) :
    gripOf (Record.grp keygrip).print = some keygrip := by
  have isGrp : "grp:".toList <+: (Record.grp keygrip).print := ⟨_, rfl⟩
  have fields : (Record.grp keygrip).print.splitOn ':' =
      ["grp".toList, [], [], [], [], [], [], [], [], keygrip.toList, []] := by
    have split : (Record.grp keygrip).print =
        "grp".toList ++ ':' :: ':' :: ':' :: ':' :: ':' :: ':' :: ':' :: ':' :: ':' ::
          (keygrip.toList ++ [':']) := rfl
    rw [split, Utf8.splitOn_append (by decide)]
    simp [Utf8.splitOn_cons_self, Utf8.splitOn_append field]
  rw [gripOf, if_pos isGrp, fields]
  simp [size]

theorem gripOf_record {record : Record} (wellFormed : record.WellFormed) :
    gripOf (withoutReturn record.print) = record.keygrip := by
  cases record with
  | grp keygrip =>
      have last : (Record.grp keygrip).print.getLast? = some ':' := by
        rw [Record.print, ← List.append_assoc, List.getLast?_concat]
      rw [withoutReturn, last, if_neg (by decide)]
      exact gripOf_grp wellFormed.1 wellFormed.2.1
  | other line =>
      have noGrp : ¬ "grp:".toList <+: withoutReturn line := by
        unfold withoutReturn
        split
        · exact fun isPrefix => wellFormed.2 (isPrefix.trans (List.dropLast_prefix line))
        · exact wellFormed.2
      exact if_neg noGrp

/-- The keygrips of the records are what is read from the listing. -/
theorem listedGrips_printed {records : List Record} (wellFormed : ∀ record ∈ records, record.WellFormed) :
    listedGrips (some (printed records)) = records.filterMap Record.keygrip := by
  have oneLine : ∀ line ∈ records.map Record.print, '\n' ∉ line := by
    intro line member
    obtain ⟨record, inRecords, rfl⟩ := List.mem_map.mp member
    cases record with
    | grp keygrip =>
        have plain := (wellFormed _ inRecords).2.2.1
        have noFeed : '\n' ∉ Record.emptyFields := by decide
        simp [Record.print, plain, noFeed]
    | other line => exact (wellFormed _ inRecords).1
  have lines : records.flatMap (·.print ++ ['\n']) = (records.map Record.print).flatMap (· ++ ['\n']) := by
    rw [List.flatMap_map]
  rw [listedGrips, Option.elim_some, printed, Utf8.decodeLossy_encode, lines, linesOf_flatMap oneLine,
    List.map_map, List.filterMap_map]
  exact List.filterMap_congr fun record member => gripOf_record (wellFormed record member)

/-! ### A start that nothing breaks off -/

theorem components_privkeysDir (gnupgHome : Path) : components (privkeysDir gnupgHome) ≠ [] := by
  have plain : Plain (fileName "private-keys-v1.d") := ⟨by decide, by decide, by decide, by decide⟩
  rw [privkeysDir, components_join plain]
  simp

/-- The stub of a keygrip that gpg prints is a file in the directory. -/
theorem stubPlace_eq {keygrip : String} (wellFormed : (Record.grp keygrip).WellFormed) :
    stubPlace cwd gnupgHome keygrip =
      locate cwd (privkeysDir gnupgHome) ++ [fileName (keygrip ++ ".key")] := by
  have extension : ".key".toList.length = 4 := by decide
  have noSlash : '/' ∉ ".key".toList := by decide
  have long := Utf8.length_le_encode (keygrip ++ ".key").toList
  rw [String.toList_append, List.length_append, extension] at long
  refine locate_join_plain (.of_long ?_ ?_)
  · rw [fileName, String.toList_append]
    omega
  · rw [fileName, String.toList_append, @Utf8.mem_encode_iff _ '/' _ rfl (by decide),
      List.mem_append, not_or]
    exact ⟨wellFormed.2.2.2, noSlash⟩

/-- With the directory made, a start gets through. -/
theorem perform_stubs (wellFormed : ∀ grip ∈ grips, (Record.grp grip).WellFormed)
    (isDirectory : isDirectoryAt before (locate cwd (privkeysDir gnupgHome)) = true) :
    ∃ after, perform umask (grips.map (createStub cwd gnupgHome)) before = some after ∧
      ∀ grip ∈ grips, after (stubPlace cwd gnupgHome grip) =
        some ((before (stubPlace cwd gnupgHome grip)).getD (.file stub 0o600)) := by
  induction grips generalizing before with
  | nil => exact ⟨before, rfl, by simp⟩
  | cons grip rest ih =>
      obtain ⟨isKeygrip, others⟩ := List.forall_mem_cons.mp wellFormed
      cases absent : before (stubPlace cwd gnupgHome grip) with
      | some node =>
          obtain ⟨after, performed, present⟩ := ih others isDirectory
          refine ⟨after, ?_, ?_⟩
          · rw [List.map_cons, perform, createStub_old absent, performCalls, Option.bind_some, performed]
          · refine List.forall_mem_cons.mpr ⟨?_, present⟩
            rw [absent, Option.getD_some]
            exact (stubs_add performed).kept absent
      | none =>
          have inDirectory : isDirectoryAt before (stubPlace cwd gnupgHome grip).dropLast = true := by
            rwa [stubPlace_eq isKeygrip, List.dropLast_concat]
          have other : locate cwd (privkeysDir gnupgHome) ≠ stubPlace cwd gnupgHome grip := by
            intro same
            rw [isDirectoryAt, same, absent] at isDirectory
            cases isDirectory
          have stays : isDirectoryAt (Function.update before (stubPlace cwd gnupgHome grip)
              (some (.file stub 0o600))) (locate cwd (privkeysDir gnupgHome)) = true := by
            rwa [isDirectoryAt, Function.update_of_ne other]
          obtain ⟨after, performed, present⟩ := ih others stays
          have made : after (stubPlace cwd gnupgHome grip) = some (.file stub 0o600) :=
            (stubs_add performed).kept (Function.update_self _ _ _)
          refine ⟨after, ?_, ?_⟩
          · rw [List.map_cons, perform, performCalls_stub absent inDirectory, Option.bind_some, performed]
          · refine List.forall_mem_cons.mpr ⟨by rw [made, absent, Option.getD_none], ?_⟩
            intro next listed
            by_cases same : stubPlace cwd gnupgHome next = stubPlace cwd gnupgHome grip
            · rw [same, made, absent, Option.getD_none]
            · rw [present next listed, Function.update_of_ne same]

theorem perform_stubs_again {tree : Tree}
    (present : ∀ grip ∈ grips, ∃ node, tree (stubPlace cwd gnupgHome grip) = some node) :
    perform umask (grips.map (createStub cwd gnupgHome)) tree = some tree := by
  induction grips with
  | nil => rfl
  | cons grip rest ih =>
      obtain ⟨⟨node, isNode⟩, later⟩ := List.forall_mem_cons.mp present
      rw [List.map_cons, perform, createStub_old isNode, performCalls, Option.bind_some, ih later]

/-! ### Over starts -/

/-- A start, and whether it gets through the creation of the stubs. -/
structure Attempt where
  umask : Nat
  stdout : Option (List UInt8)
  completes : Bool

def Start (cwd : Place) (gnupgHome : Path) (before : Tree) (attempt : Attempt) (after : Tree) : Prop :=
  if attempt.completes then
    perform attempt.umask (createStubs cwd gnupgHome attempt.stdout) before = some after
  else Leaves attempt.umask (createStubs cwd gnupgHome attempt.stdout) before after

theorem Start.adds {attempt : Attempt} (start : Start cwd gnupgHome before attempt after) :
    ∃ torn, torn.length ≤ (if attempt.completes then 0 else 1) ∧
      Adds cwd gnupgHome (listedGrips attempt.stdout) torn before after := by
  rw [Start] at start
  split at start
  · rename_i completes
    exact ⟨[], Nat.zero_le _, createStubs_add start⟩
  · rename_i isCut
    rw [if_neg isCut]
    exact createStubs_leave start

theorem run_adds {trace : List (Transition Tree Attempt)}
    (run : Run (Start cwd gnupgHome) before trace middle) :
    ∃ torn, torn.length ≤ trace.countP (fun transition => !transition.label.completes) ∧
      Adds cwd gnupgHome (trace.flatMap fun transition => listedGrips transition.label.stdout) torn
        before middle := by
  refine run.snoc_induction (motive := fun trace middle => ∃ torn : List Place,
    torn.length ≤ trace.countP (fun transition => !transition.label.completes) ∧
      Adds cwd gnupgHome (trace.flatMap fun transition => listedGrips transition.label.stdout) torn
        before middle) ⟨[], Nat.zero_le _, .refl _⟩ ?_
  rintro trace middle attempt after _ ⟨torn, few, adds⟩ start
  obtain ⟨more, one, added⟩ := start.adds
  refine ⟨torn ++ more, ?_, ?_⟩
  · have counted : more.length ≤ if !attempt.completes then 1 else 0 := by
      cases completes : attempt.completes <;> simpa [completes] using one
    rw [List.length_append, List.countP_append, List.countP_singleton]
    exact Nat.add_le_add few counted
  · rw [List.flatMap_append, List.flatMap_singleton]
    exact adds.trans added

end Stubs

def sampleGrip : String := "0123456789ABCDEF0123456789ABCDEF01234567"

def sampleStub : Place := stubPlace [] sampleHome sampleGrip

def sampleDirectories : List Call := createDirAll [] (privkeysDir sampleHome)

def cutAttempt : Attempt := ⟨0o022, some (printed [.grp sampleGrip]), false⟩

/-- The start breaks off after it has made a stub, and before it writes into it. -/
def cutTree : Option Tree :=
  (performCalls 0o022 sampleDirectories emptyRoot).bind ((Call.truncate sampleStub).perform 0o022)

theorem sampleGrip_wellFormed : ∀ record ∈ [Record.grp sampleGrip], record.WellFormed :=
  List.forall_mem_singleton.mpr ⟨by decide, by decide, by decide, by decide⟩

theorem cut_start : ∃ middle, cutTree = some middle ∧ Start [] sampleHome emptyRoot cutAttempt middle := by
  have isMade : (performCalls 0o022 sampleDirectories emptyRoot).isSome = true := by decide +kernel
  have noStub : (performCalls 0o022 sampleDirectories emptyRoot).map (fun tree => tree sampleStub) =
      some none := by decide +kernel
  have isOpened : cutTree.isSome = true := by decide +kernel
  obtain ⟨made, performed⟩ := Option.isSome_iff_exists.mp isMade
  rw [performed] at noStub
  rw [cutTree, performed, Option.bind_some] at isOpened
  obtain ⟨middle, opened⟩ := Option.isSome_iff_exists.mp isOpened
  refine ⟨middle, by rw [cutTree, performed, Option.bind_some, opened], ?_⟩
  have listed : listedGrips cutAttempt.stdout = [sampleGrip] := listedGrips_printed sampleGrip_wellFormed
  rw [Start, if_neg (by decide), createStubs, listed]
  refine .next performed (.stop ?_)
  rw [createStub_new (Option.some.inj noStub)]
  exact .next opened (.stop _ _)

end KeyMaster.GpgSa
