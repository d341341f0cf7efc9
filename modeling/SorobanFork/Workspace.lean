import SorobanFork.Error
import SorobanFork.Lib.Prog
import SorobanFork.Transport

/-!
# Contracts of the workspace (`workspace.rs`)

`workspaceWasmIn` has cargo build a contract and reads the code from where the build
puts it, so that a test does not run with code that is older than its source.  Cargo
and the file system are parameters.

`wasm_is_fresh_iff` is when it does not.
-/

namespace SorobanFork

open Lib

/-- `serde_json::Value`; a map has one field of a name. -/
inductive JsonValue : Type
  | null
  | bool (b : Bool)
  | number (text : String)
  | string (text : String)
  | array (items : List JsonValue)
  | object (fields : List (String × JsonValue))

namespace JsonValue

/-- `value[key]`. -/
def index (key : String) : JsonValue → JsonValue
  | .object fields => (fields.lookup key).getD .null
  | _ => .null

def asStr : JsonValue → Option String
  | .string text => some text
  | _ => none

def asArray : JsonValue → Option (List JsonValue)
  | .array items => some items
  | _ => none

end JsonValue

/-! ## Calls -/

structure ExitStatus : Type where
  success : Bool
  display : String

/-- `Output`, with its standard output parsed as JSON and its error output as text. -/
structure CargoOutput : Type where
  status : ExitStatus
  stdout : Except String JsonValue
  stderr : String

inductive CargoCall : Type
  | output (args : List String) (currentDir : Option String)
  | status (args : List String) (currentDir : Option String)
  | read (path : String)

abbrev CargoCall.Reply : CargoCall → Type
  | .output _ _ => Except String CargoOutput
  | .status _ _ => Except String ExitStatus
  | .read _ => Except String (List UInt8)

/-- A program that calls cargo and reads files. -/
abbrev CargoM : Type → Type := ExceptT ForkError (Prog CargoCall CargoCall.Reply)

def CargoM.call (call : CargoCall) : CargoM call.Reply := ExceptT.lift (Prog.query call)

def CargoM.of {α : Type} (result : Except ForkError α) : CargoM α := ExceptT.mk (.ret result)

/-! ## The metadata -/

/-- What `cargo metadata` printed. -/
def metadataOf : Except String CargoOutput → Except ForkError JsonValue
  | .error e => .error (.workspace s!"failed to spawn `cargo metadata`: {e}")
  | .ok output =>
    if !output.status.success then
      let exit := output.status.display
      let stderr := trim output.stderr
      .error (.workspace s!"`cargo metadata` failed (exit {exit}):\n{stderr}")
    else output.stdout.mapError fun e => .workspace s!"parsing cargo metadata JSON: {e}"

def metadataArgs : List String := ["metadata", "--no-deps", "--format-version=1"]

def readMetadata (manifestDir : Option String) : CargoM JsonValue := do
  let output ← CargoM.call (.output metadataArgs manifestDir)
  CargoM.of (metadataOf output)

def extractTargetDir (metadata : JsonValue) : Except ForkError String :=
  match (metadata.index "target_directory").asStr with
  | some dir => .ok dir
  | none => .error (.workspace "cargo metadata response missing `target_directory`")

/-- The names of the packages that are members. -/
def workspaceNames (members packages : List JsonValue) : List String :=
  let workspaceMemberIds := members.filterMap JsonValue.asStr
  (packages.filter fun pkg =>
    (pkg.index "id").asStr.any fun id => workspaceMemberIds.contains id).filterMap
      fun pkg => (pkg.index "name").asStr

def requireWorkspaceMember (metadata : JsonValue) (crateName : String) : Except ForkError Unit :=
  match (metadata.index "workspace_members").asArray, (metadata.index "packages").asArray with
  | none, _ => .error (.workspace "cargo metadata response missing `workspace_members`")
  | some _, none => .error (.workspace "cargo metadata response missing `packages`")
  | some members, some packages =>
    let names := workspaceNames members packages
    if names.contains crateName then .ok ()
    else
      let listed := String.intercalate ", " names
      .error (.workspace
        s!"{crateName} is not a workspace member. cargo metadata listed: [{listed}]")

/-! ## The build -/

def buildArgs (crateName target profile : String) : List String :=
  ["build", "-p", crateName, "--target", target] ++
    match profile with
    | "release" => ["--release"]
    | "dev" => []
    | other => ["--profile", other]

/-- How `cargo build` ended. -/
def builtOf (crateName target : String) : Except String ExitStatus → Except ForkError Unit
  | .error e => .error (.workspace s!"failed to spawn `cargo build`: {e}")
  | .ok status =>
    if !status.success then
      let exit := status.display
      .error (.workspace (s!"`cargo build -p {crateName} --target {target}` failed (exit {exit}). "
        ++ "cargo's stderr was already written to this process's stderr."))
    else .ok ()

def invokeCargoBuild (manifestDir : Option String) (crateName target profile : String) :
    CargoM Unit := do
  let status ← CargoM.call (.status (buildArgs crateName target profile) manifestDir)
  CargoM.of (builtOf crateName target status)

/-- `Path::join`. -/
def joinPath (base name : String) : String :=
  if name.toList.head? = some '/' || base = "" then name
  else if base.toList.getLast? = some '/' then base ++ name
  else base ++ "/" ++ name

/-- The name of what a crate's library compiles to. -/
def artifactName (crateName : String) : String :=
  String.ofList (crateName.toList.map fun c => if c = '-' then '_' else c) ++ ".wasm"

/-- The path of a contract's code below a directory with the name of a profile. -/
def wasmPath (targetDir target profile crateName : String) : String :=
  joinPath (joinPath (joinPath targetDir target) profile) (artifactName crateName)

/-- What reading the file gave. -/
def wasmOf (path : String) (bytes : Except String (List UInt8)) :
    Except ForkError (List UInt8) :=
  bytes.mapError fun e =>
    .workspace s!"expected wasm output at {path} after a successful build, but read failed: {e}"

def workspaceWasmIn (manifestDir : Option String) (crateName target profile : String) :
    CargoM (List UInt8) := do
  let metadata ← readMetadata manifestDir
  let targetDir ← CargoM.of (extractTargetDir metadata)
  CargoM.of (requireWorkspaceMember metadata crateName)
  invokeCargoBuild manifestDir crateName target profile
  let path := wasmPath targetDir target profile crateName
  let bytes ← CargoM.call (.read path)
  CargoM.of (wasmOf path bytes)

def defaultTarget : String := "wasm32v1-none"

def defaultProfile : String := "release"

def workspaceWasm (crateName : String) : CargoM (List UInt8) :=
  workspaceWasmIn none crateName defaultTarget defaultProfile

def workspaceWasmWith (crateName target profile : String) : CargoM (List UInt8) :=
  workspaceWasmIn none crateName target profile

/-! ## The members -/

/-- The metadata lists a package of this name, and its id among the members. -/
def IsMember (metadata : JsonValue) (name : String) : Prop :=
  ∃ members packages pkg id, (metadata.index "workspace_members").asArray = some members ∧
    (metadata.index "packages").asArray = some packages ∧ pkg ∈ packages ∧
    (pkg.index "id").asStr = some id ∧ .string id ∈ members ∧ (pkg.index "name").asStr = some name

theorem asStr_eq_some_iff {value : JsonValue} {text : String} :
    value.asStr = some text ↔ value = .string text := by
  cases value with
  | string other => simp [JsonValue.asStr]
  | null => simp [JsonValue.asStr]
  | bool b => simp [JsonValue.asStr]
  | number other => simp [JsonValue.asStr]
  | array items => simp [JsonValue.asStr]
  | object fields => simp [JsonValue.asStr]

theorem mem_workspaceNames {members packages : List JsonValue} {name : String} :
    name ∈ workspaceNames members packages ↔
      ∃ pkg ∈ packages, ∃ id, (pkg.index "id").asStr = some id ∧ .string id ∈ members ∧
        (pkg.index "name").asStr = some name := by
  simp only [workspaceNames, List.mem_filterMap, List.mem_filter, Option.any_eq_true,
    List.contains_iff_mem, asStr_eq_some_iff, exists_eq_right]
  constructor
  · rintro ⟨pkg, ⟨listed, id, idOf, member⟩, named⟩
    exact ⟨pkg, listed, id, idOf, member, named⟩
  · rintro ⟨pkg, listed, id, idOf, member, named⟩
    exact ⟨pkg, ⟨listed, id, idOf, member⟩, named⟩

/-- Packages that are no members do not count, nor do names that begin alike. -/
theorem requireWorkspaceMember_eq_ok_iff {metadata : JsonValue} {name : String} :
    requireWorkspaceMember metadata name = .ok () ↔ IsMember metadata name := by
  rw [requireWorkspaceMember, IsMember]
  rcases (metadata.index "workspace_members").asArray with _ | members
  · exact ⟨nofun, nofun⟩
  rcases (metadata.index "packages").asArray with _ | packages
  · exact ⟨nofun, nofun⟩
  have named : (workspaceNames members packages).contains name = true ↔
      ∃ pkg ∈ packages, ∃ id, (pkg.index "id").asStr = some id ∧ .string id ∈ members ∧
        (pkg.index "name").asStr = some name :=
    List.contains_iff_mem.trans mem_workspaceNames
  constructor
  · intro accepted
    by_cases found : (workspaceNames members packages).contains name
    · obtain ⟨pkg, mem, id, member⟩ := named.mp found
      exact ⟨members, packages, pkg, id, rfl, rfl, mem, member⟩
    · simp only [found, Bool.false_eq_true, if_false] at accepted
      nomatch accepted
  · rintro ⟨_, _, pkg, id, same, samePackages, mem, member⟩
    cases same
    cases samePackages
    exact if_pos (named.mpr ⟨pkg, mem, id, member⟩)

/-! ## Cargo -/

/-- The directory in which cargo keeps what it builds with a profile. -/
def profileDirectory (profile : String) : String :=
  if profile = "dev" || profile = "test" then "debug"
  else if profile = "bench" then "release"
  else profile

/-- Cargo and the file system. -/
structure Cargo (σ : Type) : Type where
  output : List String → Option String → σ → Except String CargoOutput
  status : List String → Option String → σ → Except String ExitStatus × σ
  read : String → σ → Except String (List UInt8)

namespace Cargo

variable {σ : Type} (cargo : Cargo σ)

def serve : (call : CargoCall) → σ → Except Empty call.Reply × σ
  | .output args dir, s => (.ok (cargo.output args dir s), s)
  | .status args dir, s => (.ok (cargo.status args dir s).1, (cargo.status args dir s).2)
  | .read path, s => (.ok (cargo.read path s), s)

/-- The target directory, if the crate is a member of the workspace. -/
def locate (manifestDir : Option String) (crateName : String) (s : σ) : Except ForkError String :=
  do
    let metadata ← metadataOf (cargo.output metadataArgs manifestDir s)
    let targetDir ← extractTargetDir metadata
    requireWorkspaceMember metadata crateName
    return targetDir

/-- What `cargo build` does for a crate: `compiled` is the code that its source in a
state compiles to. -/
structure Builds (manifestDir : Option String) (crateName target profile targetDir : String)
    (compiled : σ → List UInt8) : Prop where
  /-- After a build the code is in the directory of the profile, -/
  written : ∀ s status s', cargo.status (buildArgs crateName target profile) manifestDir s =
      (.ok status, s') → status.success = true →
    cargo.read (wasmPath targetDir target (profileDirectory profile) crateName) s' =
      .ok (compiled s)
  /-- and a directory with the name of a profile that is not its directory is as it was. -/
  untouched : ∀ s, profileDirectory profile ≠ profile →
    cargo.read (wasmPath targetDir target profile crateName)
        (cargo.status (buildArgs crateName target profile) manifestDir s).2 =
      cargo.read (wasmPath targetDir target profile crateName) s

end Cargo

section

variable {σ : Type} {cargo : Cargo σ} {manifestDir : Option String}
  {crateName target profile : String} {s : σ}

theorem of_ok_bind {α β : Type} (a : α) (next : α → CargoM β) :
    CargoM.of (.ok a) >>= next = next a := rfl

theorem run_readMetadata_bind {β : Type} (next : JsonValue → CargoM β) :
    (readMetadata manifestDir >>= next).run.run cargo.serve s =
      (CargoM.of (metadataOf (cargo.output metadataArgs manifestDir s)) >>= next).run.run
        cargo.serve s := rfl

theorem run_invokeCargoBuild_bind {β : Type} (next : Unit → CargoM β) :
    (invokeCargoBuild manifestDir crateName target profile >>= next).run.run cargo.serve s =
      let built := cargo.status (buildArgs crateName target profile) manifestDir s
      (CargoM.of (builtOf crateName target built.1) >>= next).run.run cargo.serve built.2 := rfl

theorem locate_eq_ok_iff {targetDir : String} :
    cargo.locate manifestDir crateName s = .ok targetDir ↔
      ∃ metadata, metadataOf (cargo.output metadataArgs manifestDir s) = .ok metadata ∧
        extractTargetDir metadata = .ok targetDir ∧ IsMember metadata crateName := by
  rw [Cargo.locate]
  constructor
  · intro located
    obtain ⟨metadata, found, located⟩ := except_bind_eq_ok.mp located
    obtain ⟨dir, extracted, located⟩ := except_bind_eq_ok.mp located
    obtain ⟨⟨⟩, member, located⟩ := except_bind_eq_ok.mp located
    obtain rfl := Except.ok.inj located
    exact ⟨metadata, found, extracted, requireWorkspaceMember_eq_ok_iff.mp member⟩
  · rintro ⟨metadata, found, extracted, member⟩
    exact except_bind_eq_ok.mpr ⟨metadata, found, except_bind_eq_ok.mpr ⟨targetDir, extracted,
      except_bind_eq_ok.mpr ⟨(), requireWorkspaceMember_eq_ok_iff.mpr member, rfl⟩⟩⟩

/-- Nothing is built for a crate that is not a member. -/
theorem run_workspaceWasmIn_error {e : ForkError}
    (nowhere : cargo.locate manifestDir crateName s = .error e) :
    (workspaceWasmIn manifestDir crateName target profile).run.run cargo.serve s =
      (.ok (.error e), s) := by
  rw [Cargo.locate] at nowhere
  rw [workspaceWasmIn, run_readMetadata_bind]
  generalize metadataOf (cargo.output metadataArgs manifestDir s) = found at nowhere ⊢
  rcases found with e' | metadata
  · cases nowhere
    rfl
  change (extractTargetDir metadata >>= _) = _ at nowhere
  rw [of_ok_bind]
  generalize extractTargetDir metadata = extracted at nowhere ⊢
  rcases extracted with e' | targetDir
  · cases nowhere
    rfl
  change (requireWorkspaceMember metadata crateName >>= _) = _ at nowhere
  rw [of_ok_bind]
  generalize requireWorkspaceMember metadata crateName = required at nowhere ⊢
  rcases required with e' | _
  · cases nowhere
    rfl
  · nomatch nowhere

theorem run_workspaceWasmIn_ok {targetDir : String}
    (located : cargo.locate manifestDir crateName s = .ok targetDir) :
    (workspaceWasmIn manifestDir crateName target profile).run.run cargo.serve s =
      let built := cargo.status (buildArgs crateName target profile) manifestDir s
      let path := wasmPath targetDir target profile crateName
      (.ok (builtOf crateName target built.1 >>= fun _ => wasmOf path (cargo.read path built.2)),
        built.2) := by
  obtain ⟨metadata, found, extracted, member⟩ := locate_eq_ok_iff.mp located
  rw [workspaceWasmIn, run_readMetadata_bind, found, of_ok_bind, extracted, of_ok_bind,
    requireWorkspaceMember_eq_ok_iff.mpr member, of_ok_bind, run_invokeCargoBuild_bind]
  generalize cargo.status (buildArgs crateName target profile) manifestDir s = built
  dsimp only
  rcases builtOf crateName target built.1 with e | _
  · rfl
  · rfl

theorem builtOf_eq_ok_iff {reply : Except String ExitStatus} :
    builtOf crateName target reply = .ok () ↔ ∃ status, reply = .ok status ∧ status.success := by
  rcases reply with e | status
  · exact ⟨nofun, nofun⟩
  · cases succeeded : status.success with
    | true => simp [builtOf, succeeded]
    | false => simp [builtOf, succeeded]

theorem wasmOf_eq_ok_iff {path : String} {reply : Except String (List UInt8)}
    {bytes : List UInt8} : wasmOf path reply = .ok bytes ↔ reply = .ok bytes :=
  except_mapError_eq_ok

theorem profileDirectory_eq_iff :
    profileDirectory profile = profile ↔ profile ∉ ["dev", "test", "bench"] := by
  by_cases dev : profile = "dev"
  · subst dev
    decide
  by_cases test : profile = "test"
  · subst test
    decide
  by_cases bench : profile = "bench"
  · subst bench
    decide
  simp [profileDirectory, dev, test, bench]

/-- **What a call returns.**  It returns code only if the crate is a member and its build
succeeded; that is what the source compiles to, but for the profiles that cargo keeps in
the directory of another: there it is what was at the path before. -/
theorem wasm_is_fresh {compiled : σ → List UInt8}
    (builds : ∀ targetDir, cargo.locate manifestDir crateName s = .ok targetDir →
      cargo.Builds manifestDir crateName target profile targetDir compiled) (bytes : List UInt8) :
    ((workspaceWasmIn manifestDir crateName target profile).run.run cargo.serve s).1 =
        .ok (.ok bytes) ↔
      ∃ targetDir status,
        cargo.locate manifestDir crateName s = .ok targetDir ∧
        (cargo.status (buildArgs crateName target profile) manifestDir s).1 = .ok status ∧
        status.success = true ∧
        if profile ∈ ["dev", "test", "bench"] then
          cargo.read (wasmPath targetDir target profile crateName) s = .ok bytes
        else bytes = compiled s := by
  rcases located : cargo.locate manifestDir crateName s with e | targetDir
  · rw [run_workspaceWasmIn_error located]
    constructor
    · nofun
    · rintro ⟨_, _, located', -⟩
      nomatch located'
  rw [run_workspaceWasmIn_ok located]
  have builds := builds targetDir located
  rcases ran : cargo.status (buildArgs crateName target profile) manifestDir s with ⟨reply, s'⟩
  dsimp only
  rw [Except.ok.injEq, except_bind_eq_ok]
  simp only [wasmOf_eq_ok_iff]
  -- what is read after the build succeeded
  have read {status : ExitStatus} (built : reply = .ok status) (success : status.success = true) :
      cargo.read (wasmPath targetDir target profile crateName) s' = .ok bytes ↔
        if profile ∈ ["dev", "test", "bench"] then
          cargo.read (wasmPath targetDir target profile crateName) s = .ok bytes
        else bytes = compiled s := by
    by_cases own : profileDirectory profile = profile
    · have written := builds.written s status s' (ran.trans (by rw [built])) success
      rw [own] at written
      rw [if_neg (profileDirectory_eq_iff.mp own), written]
      exact ⟨fun same => (Except.ok.inj same).symm, fun same => congrArg Except.ok same.symm⟩
    · have untouched := builds.untouched s own
      rw [ran] at untouched
      rw [if_pos (Classical.not_not.mp (mt profileDirectory_eq_iff.mpr own)), ← untouched]
  constructor
  · rintro ⟨⟨⟩, ended, found⟩
    obtain ⟨status, built, success⟩ := builtOf_eq_ok_iff.mp ended
    exact ⟨targetDir, status, rfl, built, success, (read built success).mp found⟩
  · rintro ⟨_, status, same, built, success, found⟩
    cases same
    exact ⟨(), builtOf_eq_ok_iff.mpr ⟨status, built, success⟩, (read built success).mpr found⟩

end

/-! ## A workspace -/

/-- A workspace with a contract whose code is `source`, and the files of its target
directory. -/
structure DemoWorkspace : Type where
  source : List UInt8
  files : String → Option (List UInt8)

/-- Cargo, for a workspace in `/ws` with a contract called `demo-contract`. -/
def demoCargo : Cargo DemoWorkspace where
  output _ _ _ := .ok
    { status := ⟨true, "exit status: 0"⟩
      stdout := .ok (.object
        [("packages", .array [.object
            [("id", .string "path+file:///ws/demo#0.0.1"), ("name", .string "demo-contract")]]),
          ("workspace_members", .array [.string "path+file:///ws/demo#0.0.1"]),
          ("target_directory", .string "/ws/target")])
      stderr := "" }
  status args _ ws :=
    let directory := if args = buildArgs "demo-contract" "wasm32v1-none" "dev" then "debug"
      else "release"
    let path := wasmPath "/ws/target" "wasm32v1-none" directory "demo-contract"
    (.ok ⟨true, "exit status: 0"⟩,
      { ws with files := Function.update ws.files path (some ws.source) })
  read path ws :=
    match ws.files path with
    | some bytes => .ok bytes
    | none => .error "No such file or directory (os error 2)"

example : wasmPath "/ws/target" "wasm32v1-none" "release" "demo-contract" =
    "/ws/target/wasm32v1-none/release/demo_contract.wasm" := by
  decide

theorem demoCargo_builds {targetDir : String} {ws : DemoWorkspace}
    (located : demoCargo.locate none "demo-contract" ws = .ok targetDir) :
    demoCargo.Builds none "demo-contract" "wasm32v1-none" "dev" targetDir
      DemoWorkspace.source := by
  have same : targetDir = "/ws/target" := by
    obtain ⟨metadata, found, extracted, -⟩ := locate_eq_ok_iff.mp located
    cases found
    exact (Except.ok.inj extracted).symm
  subst same
  have apart : wasmPath "/ws/target" "wasm32v1-none" "dev" "demo-contract" ≠
      wasmPath "/ws/target" "wasm32v1-none" "debug" "demo-contract" := by
    decide
  have read (path : String) (ws : DemoWorkspace) : demoCargo.read path
      (demoCargo.status (buildArgs "demo-contract" "wasm32v1-none" "dev") none ws).2 =
        if path = wasmPath "/ws/target" "wasm32v1-none" "debug" "demo-contract" then .ok ws.source
        else demoCargo.read path ws := by
    by_cases written : path = wasmPath "/ws/target" "wasm32v1-none" "debug" "demo-contract"
    · rw [if_pos written, written]
      simp only [demoCargo, if_true, Function.update_self]
    · rw [if_neg written]
      simp only [demoCargo, if_true, Function.update_of_ne written]
  refine ⟨fun ws status ws' ran success => ?_, fun ws shared => ?_⟩
  · have same : ws' = (demoCargo.status _ none ws).2 := congrArg Prod.snd ran.symm
    rw [same, read]
    rfl
  · rw [read, if_neg apart]

/-- Somebody copied code to where it is looked for, and then changed the source. -/
def copied : DemoWorkspace where
  source := [2]
  files path :=
    if path = wasmPath "/ws/target" "wasm32v1-none" "dev" "demo-contract" then some [1] else none

theorem wasm_is_fresh_copied :
    ((workspaceWasmWith "demo-contract" "wasm32v1-none" "dev").run.run demoCargo.serve copied).1 =
        .ok (.ok [1]) ∧
      ((workspaceWasm "demo-contract").run.run demoCargo.serve copied).1 =
        .ok (.ok copied.source) := by
  refine ⟨(wasm_is_fresh (fun _ => demoCargo_builds) [1]).mpr
    ⟨"/ws/target", ⟨true, "exit status: 0"⟩, rfl, rfl, rfl, ?_⟩, rfl⟩
  rfl

end SorobanFork
