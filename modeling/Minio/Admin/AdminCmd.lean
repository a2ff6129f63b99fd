import Minio.NsLock.DebugLocks
import Mathlib.Logic.Function.Basic
/-!
# The admin RPC server of a node

`adminCmd` serves the admin RPCs a node's peers send it: service signals, format
re-initialization, lock listing, server information, the node's configuration, and the two
steps of a configuration change. `WriteTmpConfig` writes the new configuration to a file of the
configuration directory, and `CommitConfig` renames that file onto `config.json`. Every method
checks the caller's token with `args.IsAuthenticated()` before anything else, except
`CommitConfig`, which has no such check.

* `adminCmd_run`: over any run of admin RPCs from any callers, every method but `CommitConfig`
  leaves the node as it was for a caller that fails authentication, the service signals sent
  are exactly those of authenticated callers, and every file's content is one some file had
  before the run or a prefix of the buffer of an authenticated `WriteTmpConfig`. Yet a caller
  that fails authentication moves any file that `filepath.Join(configDir, fileName)` names
  onto `config.json`.

`IsAuthenticated`, `getConfigDir`, `getConfigFile`, `filepath.Join`, `ioutil.WriteFile`,
`os.Rename` and the object layer are not in the source: a call takes the verdict on its token
and the failures of the file system as inputs. Files are a function from paths to their bytes.
-/

namespace Minio.Admin.AdminCmd

open Minio.NsLock.DebugLocks

variable {Sig Info Cfg : Type}

/-- The node state the admin RPCs change: its files by path, and the signals sent on
`globalServiceSignalCh`. -/
structure AdminNode (Sig : Type) where
  files : String → Option (List UInt8)
  signals : List Sig

/-- The errors of the admin RPCs. -/
inductive AdminErr where
  /-- the error of `args.IsAuthenticated()` -/
  | auth (msg : String)
  | serverNotInitialized
  /-- `fmt.Errorf("config not present")` -/
  | configNotPresent
  /-- an error of the object layer, of `json.Marshal` or of the file system, passed on -/
  | other (msg : String)
  deriving DecidableEq, Repr

/-- Where the configuration lives: `getConfigDir()`, `getConfigFile()` and `filepath.Join`. -/
structure ConfigPaths where
  configDir : String
  configFile : String
  pathJoin : String → String → String

/-! ## The file system -/

/-- How `ioutil.WriteFile` fails: before it opens (and truncates) the file, or after writing
`written` bytes of the buffer. -/
inductive WriteFault where
  | openFailed (msg : String)
  | writeFailed (msg : String) (written : Nat)

/-- `ioutil.WriteFile(path, buf, 0666)`, not in the source. -/
def writeFile (files : String → Option (List UInt8)) (path : String) (buf : List UInt8) :
    Option WriteFault → (String → Option (List UInt8)) × Option String
  | none => (Function.update files path (some buf), none)
  | some (.openFailed e) => (files, some e)
  | some (.writeFailed e written) => (Function.update files path (some (buf.take written)), some e)

/-- `os.Rename(src, dst)`, not in the source: a missing source, or a `fault`, changes nothing. -/
def rename (files : String → Option (List UInt8)) (src dst : String) (fault : Option String) :
    (String → Option (List UInt8)) × Option String :=
  match fault, files src with
  | some e, _ => (files, some e)
  | none, none => (files, some "no such file or directory")
  | none, some b =>
    if src = dst then (files, none)
    else (Function.update (Function.update files dst (some b)) src none, none)

/-- A file after a write holds what it held, or a prefix of the buffer. -/
theorem writeFile_content {files : String → Option (List UInt8)} {path : String}
    {buf : List UInt8} {fault : Option WriteFault} {p : String} {b : List UInt8}
    (h : (writeFile files path buf fault).1 p = some b) : files p = some b ∨ b <+: buf := by
  rcases fault with _ | (_ | ⟨_, written⟩) <;> simp only [writeFile, Function.update_apply] at h
  · split at h
    · cases h; exact .inr (List.prefix_refl _)
    · exact .inl h
  · exact .inl h
  · split at h
    · cases h; exact .inr (List.take_prefix _ _)
    · exact .inl h

/-- A rename moves a file's content; it makes none. -/
theorem rename_content {files : String → Option (List UInt8)} {src dst : String}
    {fault : Option String} {p : String} {b : List UInt8}
    (h : (rename files src dst fault).1 p = some b) : ∃ p', files p' = some b := by
  unfold rename at h
  split at h
  · exact ⟨p, h⟩
  · exact ⟨p, h⟩
  · rename_i hsrc
    split at h
    · exact ⟨p, h⟩
    · simp only [Function.update_apply] at h
      split at h
      · cases h
      split at h
      · cases h; exact ⟨src, hsrc⟩
      · exact ⟨p, h⟩

/-! ## The methods -/

/-- Every method of `adminCmd` but `CommitConfig`: `args.IsAuthenticated()`, then its body. -/
def authenticated {α : Type} (authErr : Option String)
    (body : AdminNode Sig → AdminNode Sig × Except AdminErr α) (node : AdminNode Sig) :
    AdminNode Sig × Except AdminErr α :=
  match authErr with
  | some e => (node, .error (.auth e))
  | none => body node

/-- `adminCmd.SignalService` (admin-rpc-server.go, lines 73-80). -/
def SignalService (authErr : Option String) (sig : Sig) :
    AdminNode Sig → AdminNode Sig × Except AdminErr Unit :=
  authenticated authErr fun node => ({ node with signals := node.signals ++ [sig] }, .ok ())

/-- `adminCmd.ReInitFormat` (lines 89-98); `reloadErr` is the error of
`objectAPI.ReloadFormat`. -/
def ReInitFormat (authErr : Option String) (objectLayer : Bool) (reloadErr : Option String) :
    AdminNode Sig → AdminNode Sig × Except AdminErr Unit :=
  authenticated authErr fun node =>
    (node, if !objectLayer then .error .serverNotInitialized
      else match reloadErr with
        | some e => .error (.other e)
        | none => .ok ())

/-- `adminCmd.ListLocks` (lines 101-115); `volLocks` is what `objectAPI.ListLocks` returns. -/
def ListLocks (authErr : Option String) (objectLayer : Bool)
    (volLocks : Except String (List VolumeLockInfo)) :
    AdminNode Sig → AdminNode Sig × Except AdminErr (List VolumeLockInfo) :=
  authenticated authErr fun node =>
    (node, if !objectLayer then .error .serverNotInitialized else volLocks.mapError .other)

/-- `adminCmd.ServerInfoData` (lines 118-148); `info` is the data the node gathers. -/
def ServerInfoData (authErr : Option String) (bootTimeZero objectLayer : Bool) (info : Info) :
    AdminNode Sig → AdminNode Sig × Except AdminErr Info :=
  authenticated authErr fun node =>
    (node, if bootTimeZero then .error .serverNotInitialized
      else if !objectLayer then .error .serverNotInitialized
      else .ok info)

/-- `adminCmd.GetConfig` (lines 151-167): the in-memory `globalServerConfig`, marshalled. -/
def GetConfig (authErr : Option String) (globalServerConfig : Option Cfg)
    (marshal : Cfg → Except String (List UInt8)) :
    AdminNode Sig → AdminNode Sig × Except AdminErr (List UInt8) :=
  authenticated authErr fun node =>
    (node, match globalServerConfig with
      | none => .error .configNotPresent
      | some config => (marshal config).mapError .other)

/-- `writeTmpConfigCommon(tmpFileName, configBytes)` (lines 182-190). -/
def writeTmpConfigCommon (paths : ConfigPaths) (fault : Option WriteFault) (tmpFileName : String)
    (configBytes : List UInt8) (node : AdminNode Sig) : AdminNode Sig × Except AdminErr Unit :=
  let written := writeFile node.files (paths.pathJoin paths.configDir tmpFileName) configBytes fault
  ({ node with files := written.1 }, match written.2 with
    | some e => .error (.other e)
    | none => .ok ())

/-- `adminCmd.WriteTmpConfig` (lines 193-199). -/
def WriteTmpConfig (authErr : Option String) (paths : ConfigPaths) (fault : Option WriteFault)
    (tmpFileName : String) (buf : List UInt8) :
    AdminNode Sig → AdminNode Sig × Except AdminErr Unit :=
  authenticated authErr (writeTmpConfigCommon paths fault tmpFileName buf)

/-- `adminCmd.CommitConfig` (lines 215-227): the rename of `filepath.Join(getConfigDir(),
cArgs.FileName)` onto `getConfigFile()`, with no `IsAuthenticated` check. -/
def CommitConfig (paths : ConfigPaths) (fault : Option String) (fileName : String)
    (node : AdminNode Sig) : AdminNode Sig × Except AdminErr Unit :=
  let renamed := rename node.files (paths.pathJoin paths.configDir fileName) paths.configFile fault
  ({ node with files := renamed.1 }, match renamed.2 with
    | some e => .error (.other e)
    | none => .ok ())

/-- A refused caller gets the error of its token and changes nothing. -/
@[simp] theorem authenticated_some {α : Type} (e : String)
    (body : AdminNode Sig → AdminNode Sig × Except AdminErr α) (node : AdminNode Sig) :
    authenticated (some e) body node = (node, .error (.auth e)) := rfl

@[simp] theorem authenticated_none {α : Type}
    (body : AdminNode Sig → AdminNode Sig × Except AdminErr α) (node : AdminNode Sig) :
    authenticated none body node = body node := rfl

/-! ## Runs of admin RPCs -/

/-- An admin RPC a node receives: the verdict of `IsAuthenticated` on the caller's token, the
method's arguments, and what the node's environment answers it. -/
inductive AdminCall (Sig Info Cfg : Type) where
  | signalService (authErr : Option String) (sig : Sig)
  | reInitFormat (authErr : Option String) (objectLayer : Bool) (reloadErr : Option String)
  | listLocks (authErr : Option String) (objectLayer : Bool)
      (volLocks : Except String (List VolumeLockInfo))
  | serverInfoData (authErr : Option String) (bootTimeZero objectLayer : Bool) (info : Info)
  | getConfig (authErr : Option String) (globalServerConfig : Option Cfg)
      (marshal : Cfg → Except String (List UInt8))
  | writeTmpConfig (authErr : Option String) (fault : Option WriteFault) (tmpFileName : String)
      (buf : List UInt8)
  | commitConfig (authErr : Option String) (fault : Option String) (fileName : String)

namespace AdminCall

/-- The verdict on the caller's token. -/
def authErr : AdminCall Sig Info Cfg → Option String
  | signalService authErr .. | reInitFormat authErr .. | listLocks authErr ..
  | serverInfoData authErr .. | getConfig authErr .. | writeTmpConfig authErr ..
  | commitConfig authErr .. => authErr

/-- The node after the call. -/
def step (paths : ConfigPaths) : AdminCall Sig Info Cfg → AdminNode Sig → AdminNode Sig
  | signalService authErr sig, node => (SignalService authErr sig node).1
  | reInitFormat authErr objectLayer reloadErr, node =>
    (ReInitFormat authErr objectLayer reloadErr node).1
  | listLocks authErr objectLayer volLocks, node => (ListLocks authErr objectLayer volLocks node).1
  | serverInfoData authErr bootTimeZero objectLayer info, node =>
    (ServerInfoData authErr bootTimeZero objectLayer info node).1
  | getConfig authErr globalServerConfig marshal, node =>
    (GetConfig authErr globalServerConfig marshal node).1
  | writeTmpConfig authErr fault tmpFileName buf, node =>
    (WriteTmpConfig authErr paths fault tmpFileName buf node).1
  | commitConfig _ fault fileName, node => (CommitConfig paths fault fileName node).1

/-- The signal an authenticated `SignalService` sends. -/
def authenticatedSignal : AdminCall Sig Info Cfg → Option Sig
  | signalService none sig => some sig
  | _ => none

/-- The buffer of an authenticated `WriteTmpConfig`. -/
def authenticatedWrite : AdminCall Sig Info Cfg → Option (List UInt8)
  | writeTmpConfig none _ _ buf => some buf
  | _ => none

/-- Whether the call is a `CommitConfig`. -/
def isCommit : AdminCall Sig Info Cfg → Bool
  | commitConfig .. => true
  | _ => false

variable (paths : ConfigPaths)

theorem step_signals (call : AdminCall Sig Info Cfg) (node : AdminNode Sig) :
    (call.step paths node).signals = node.signals ++ call.authenticatedSignal.toList := by
  cases call with
  | signalService authErr sig => cases authErr <;> simp [step, SignalService, authenticatedSignal]
  | commitConfig => simp [step, CommitConfig, authenticatedSignal]
  | reInitFormat authErr | listLocks authErr | serverInfoData authErr | getConfig authErr
  | writeTmpConfig authErr =>
    cases authErr <;> simp [step, authenticatedSignal, ReInitFormat, ListLocks, ServerInfoData,
      GetConfig, WriteTmpConfig, writeTmpConfigCommon]

/-- A caller that fails authentication changes nothing, but through `CommitConfig`. -/
theorem step_refused (call : AdminCall Sig Info Cfg) (node : AdminNode Sig)
    (hauth : call.authErr.isSome) (hcommit : call.isCommit = false) : call.step paths node = node := by
  obtain ⟨e, he⟩ := Option.isSome_iff_exists.mp hauth
  cases call <;> simp_all [authErr, isCommit, step, SignalService, ReInitFormat, ListLocks,
    ServerInfoData, GetConfig, WriteTmpConfig]

/-- Where a file's content comes from: a file before the run, or a prefix of a buffer. -/
def Provenance (before : String → Option (List UInt8)) (bufs : List (List UInt8))
    (files : String → Option (List UInt8)) : Prop :=
  ∀ path b, files path = some b → (∃ path', before path' = some b) ∨ ∃ buf ∈ bufs, b <+: buf

theorem step_provenance {before : String → Option (List UInt8)} {bufs : List (List UInt8)}
    (call : AdminCall Sig Info Cfg) (node : AdminNode Sig) (h : Provenance before bufs node.files) :
    Provenance before (bufs ++ call.authenticatedWrite.toList) (call.step paths node).files := by
  have hmono : ∀ files, Provenance before bufs files →
      Provenance before (bufs ++ call.authenticatedWrite.toList) files := fun files hf path b hb =>
    (hf path b hb).imp_right fun ⟨buf, hbuf, hpre⟩ => ⟨buf, List.mem_append_left _ hbuf, hpre⟩
  cases call with
  | writeTmpConfig authErr fault tmpFileName buf =>
    cases authErr with
    | some e => exact hmono _ h
    | none =>
      -- the written file holds the buffer, or a prefix of it
      intro path b hb
      rcases writeFile_content hb with hb | hpre
      · exact hmono _ h path b hb
      · exact .inr ⟨buf, List.mem_append_right _ (List.mem_singleton_self _), hpre⟩
  | commitConfig authErr fault fileName =>
    intro path b hb
    obtain ⟨p, hp⟩ := rename_content hb
    exact hmono _ h p b hp
  | signalService authErr | reInitFormat authErr | listLocks authErr | serverInfoData authErr
  | getConfig authErr => cases authErr <;> exact hmono _ h

/-- The signals a run sends: those of its authenticated `SignalService` calls, in order. -/
theorem run_signals (calls : List (AdminCall Sig Info Cfg)) (node₀ : AdminNode Sig) :
    (calls.foldl (fun node call => call.step paths node) node₀).signals =
      node₀.signals ++ calls.filterMap authenticatedSignal := by
  induction calls generalizing node₀ with
  | nil => simp
  | cons call calls ih =>
    rw [List.foldl_cons, ih, step_signals, List.filterMap_cons]
    cases call.authenticatedSignal <;> simp

/-- `Provenance` over a run, with the buffers of its authenticated writes. -/
theorem run_provenance {before : String → Option (List UInt8)} (calls : List (AdminCall Sig Info Cfg))
    {node : AdminNode Sig} {bufs : List (List UInt8)} (h : Provenance before bufs node.files) :
    Provenance before (bufs ++ calls.filterMap authenticatedWrite)
      (calls.foldl (fun node call => call.step paths node) node).files := by
  induction calls generalizing node bufs with
  | nil => simpa using h
  | cons call calls ih =>
    have := ih (call.step_provenance paths node h)
    rw [List.filterMap_cons]
    cases hw : call.authenticatedWrite <;> simpa [hw] using this

end AdminCall

/-- Over any run of admin RPCs, from any callers: every method but `CommitConfig` leaves the node
as it was for a caller that fails authentication; the signals sent are those of the
authenticated `SignalService` calls, in order; and every file's content, `config.json`'s
included, is one some file had before the run or a prefix of the buffer of an authenticated
`WriteTmpConfig`. A caller that fails authentication nevertheless moves any file that
`filepath.Join(configDir, fileName)` names onto `config.json`. -/
theorem adminCmd_run (paths : ConfigPaths) :
    (∀ (call : AdminCall Sig Info Cfg) (node : AdminNode Sig), call.authErr.isSome →
      call.isCommit = false → call.step paths node = node) ∧
    (∀ (node₀ : AdminNode Sig) (calls : List (AdminCall Sig Info Cfg)),
      (calls.foldl (fun node call => call.step paths node) node₀).signals =
        node₀.signals ++ calls.filterMap AdminCall.authenticatedSignal) ∧
    (∀ (node₀ : AdminNode Sig) (calls : List (AdminCall Sig Info Cfg)) path b,
      (calls.foldl (fun node call => call.step paths node) node₀).files path = some b →
      (∃ path', node₀.files path' = some b) ∨
        ∃ buf ∈ calls.filterMap AdminCall.authenticatedWrite, b <+: buf) ∧
    (∀ (node : AdminNode Sig) (e fileName : String) (b : List UInt8),
      node.files (paths.pathJoin paths.configDir fileName) = some b →
      paths.pathJoin paths.configDir fileName ≠ paths.configFile →
      ((@AdminCall.commitConfig Sig Info Cfg (some e) none fileName).step paths node).files
        paths.configFile = some b) := by
  refine ⟨fun call node => call.step_refused paths node, fun node₀ calls =>
    AdminCall.run_signals paths calls node₀, fun node₀ calls path b hb => ?_,
    fun node e fileName b hb hne => ?_⟩
  · -- the provenance invariant, from the files before the run
    have hinit : AdminCall.Provenance node₀.files [] node₀.files := fun path b hb => .inl ⟨path, hb⟩
    have := AdminCall.run_provenance paths calls hinit path b hb
    rwa [List.nil_append] at this
  · simp [AdminCall.step, CommitConfig, rename, hb, hne, Function.update_noteq (Ne.symm hne)]

/-- A caller with a bad token renames a file outside the configuration directory onto
`config.json`, through a `..` in the file name. -/
example :
    ((@AdminCall.commitConfig Unit Unit Unit (some "bad token") none "../tmp/x").step
      ⟨"/cfg", "/cfg/config.json", fun dir name => dir ++ "/" ++ name⟩
      ⟨fun path => if path = "/cfg/../tmp/x" then some [1] else none, []⟩).files "/cfg/config.json" =
      some [1] := by
  decide

end Minio.Admin.AdminCmd
