import SorobanFork.Lib.Interleave

/-!
# Replacing a file by renaming

A file system maps paths to contents.  Any of its operations may fail, and a
write that fails may leave some of its items behind.

`Replacement.save` replaces a file in the usual way: it writes a temporary file,
piece by piece, and renames it onto the target.  Many of them share one file
system, as clients of it; one that crashes gets no further turn.

* `FileSystem.serve_frame`: an operation changes no file it does not name.
* `Replacement.Stage`: how far a replacement has come, and what its temporary
  file holds then.
* `Replacement.run_atomic`: in every interleaving, the target holds what it held
  at the start, or the contents of the last replacement that was renamed.
-/

namespace SorobanFork.Lib

/-- An operation on files whose contents are lists of `β`. -/
inductive FileOp (P β : Type) : Type
  /-- Create an empty file, or empty the one that is there. -/
  | create (path : P)
  | write (path : P) (items : List β)
  | rename (source target : P)
  | remove (path : P)

/-- An operation succeeds, or fails with a message. -/
abbrev FileOp.Reply {P β : Type} (_ : FileOp P β) : Type := Except String Unit

/-- How an operation fails; a write has written this many items by then. -/
structure FileFault : Type where
  message : String
  written : Nat

/-- The files, the number of operations so far, and the renames that succeeded,
the last one first. -/
structure FileSystem (P β : Type) : Type where
  files : P → Option (List β)
  operations : Nat
  renames : List (P × P)

section

variable {P β : Type} [DecidableEq P]

/-- The paths an operation names. -/
def FileOp.Names (op : FileOp P β) (path : P) : Prop :=
  match op with
  | .create p | .write p _ | .remove p => path = p
  | .rename source target => path = source ∨ path = target

namespace FileSystem

/-- The file at `path` with more items at its end. -/
def append (fs : FileSystem P β) (path : P) (items : List β) : P → Option (List β) :=
  Function.update fs.files path ((fs.files path).map (· ++ items))

/-- Perform one operation; `faults` says which operations fail. -/
def serve (faults : Nat → Option FileFault) (op : FileOp P β) (fs : FileSystem P β) :
    Except Empty op.Reply × FileSystem P β :=
  let fs' := { fs with operations := fs.operations + 1 }
  match faults fs.operations with
  | some fault =>
    match op with
    | .write path items =>
      (.ok (.error fault.message),
        { fs' with files := fs.append path (items.take fault.written) })
    | _ => (.ok (.error fault.message), fs')
  | none =>
    match op with
    | .create path => (.ok (.ok ()), { fs' with files := Function.update fs.files path (some []) })
    | .write path items => (.ok (.ok ()), { fs' with files := fs.append path items })
    | .rename source target =>
      match fs.files source with
      | none => (.ok (.error "No such file or directory (os error 2)"), fs')
      | some contents =>
        (.ok (.ok ()),
          { fs' with
            files := Function.update (Function.update fs.files source none) target (some contents)
            renames := (source, target) :: fs.renames })
    | .remove path => (.ok (.ok ()), { fs' with files := Function.update fs.files path none })

variable {faults : Nat → Option FileFault} {fs : FileSystem P β}

/-- An operation changes no file it does not name. -/
theorem serve_frame {op : FileOp P β} {path : P} (other : ¬op.Names path) :
    (fs.serve faults op).2.files path = fs.files path := by
  have notNamed {p : P} {value : Option (List β)} (ne : path ≠ p) :
      Function.update fs.files p value path = fs.files path := Function.update_of_ne ne _ _
  unfold serve
  cases faults fs.operations with
  | some fault =>
      cases op with
      | write p items => exact notNamed other
      | _ => rfl
  | none =>
      cases op with
      | create p => exact notNamed other
      | write p items => exact notNamed other
      | remove p => exact notNamed other
      | rename source target =>
          obtain ⟨notSource, notTarget⟩ := not_or.mp other
          rcases held : fs.files source with _ | contents
          · simp only [held]
          · simp only [held]
            rw [Function.update_of_ne notTarget]
            exact notNamed notSource

/-- No rename is forgotten. -/
theorem mem_renames_serve {op : FileOp P β} {renamed : P × P} (mem : renamed ∈ fs.renames) :
    renamed ∈ (fs.serve faults op).2.renames := by
  unfold serve
  cases faults fs.operations with
  | some fault => cases op <;> exact mem
  | none =>
      cases op with
      | rename source target =>
          rcases held : fs.files source with _ | contents
          · simp only [held]
            exact mem
          · simp only [held]
            exact .tail _ mem
      | _ => exact mem

/-- Only a rename adds a rename. -/
theorem renames_serve {op : FileOp P β} (notRename : ∀ source target, op ≠ .rename source target) :
    (fs.serve faults op).2.renames = fs.renames := by
  unfold serve
  cases faults fs.operations with
  | some fault => cases op <;> rfl
  | none =>
      cases op with
      | rename source target => exact absurd rfl (notRename source target)
      | _ => rfl

theorem serve_create (faults : Nat → Option FileFault) (fs : FileSystem P β) (path : P) :
    (∃ message fs', fs.serve faults (.create path) = (.ok (.error message), fs') ∧
      fs'.files = fs.files) ∨
    ∃ fs', fs.serve faults (.create path) = (.ok (.ok ()), fs') ∧
      fs'.files = Function.update fs.files path (some []) := by
  unfold serve
  cases faults fs.operations with
  | some fault => exact .inl ⟨fault.message, _, rfl, rfl⟩
  | none => exact .inr ⟨_, rfl, rfl⟩

/-- A write that fails may leave anything in its file. -/
theorem serve_write (faults : Nat → Option FileFault) {path : P} {contents : List β}
    (held : fs.files path = some contents) (items : List β) :
    (∃ message left fs', fs.serve faults (.write path items) = (.ok (.error message), fs') ∧
      fs'.files = Function.update fs.files path left) ∨
    ∃ fs', fs.serve faults (.write path items) = (.ok (.ok ()), fs') ∧
      fs'.files = Function.update fs.files path (some (contents ++ items)) := by
  unfold serve
  cases faults fs.operations with
  | some fault => exact .inl ⟨fault.message, _, _, rfl, rfl⟩
  | none =>
      refine .inr ⟨_, rfl, ?_⟩
      show fs.append path items = _
      rw [append, held, Option.map_some]

/-- A rename fails and changes nothing, or moves the contents. -/
theorem serve_rename (faults : Nat → Option FileFault) {source : P} {contents : List β}
    (held : fs.files source = some contents) (target : P) :
    (∃ message fs', fs.serve faults (.rename source target) = (.ok (.error message), fs') ∧
      fs'.files = fs.files ∧ fs'.renames = fs.renames) ∨
    ∃ fs', fs.serve faults (.rename source target) = (.ok (.ok ()), fs') ∧
      fs'.files =
        Function.update (Function.update fs.files source none) target (some contents) ∧
      fs'.renames = (source, target) :: fs.renames := by
  unfold serve
  cases faults fs.operations with
  | some fault => exact .inl ⟨fault.message, _, rfl, rfl, rfl⟩
  | none =>
      simp only [held]
      exact .inr ⟨_, rfl, rfl, rfl⟩

theorem serve_remove (faults : Nat → Option FileFault) (fs : FileSystem P β) (path : P) :
    ∃ reply left fs', fs.serve faults (.remove path) = (.ok reply, fs') ∧
      fs'.files = Function.update fs.files path left := by
  unfold serve
  cases faults fs.operations with
  | some fault => exact ⟨_, fs.files path, _, rfl, (Function.update_eq_self _ _).symm⟩
  | none => exact ⟨_, none, _, rfl, rfl⟩

end FileSystem

/-! ## Replacing one file -/

/-- A file to replace: the temporary file, the target, the new contents in
pieces, and the errors to report. -/
structure Replacement (P β ε : Type) : Type where
  temp : P
  target : P
  pieces : List (List β)
  writeError : String → ε
  renameError : String → ε

namespace Replacement

variable {ε : Type} (job : Replacement P β ε)

/-- The complete new contents. -/
def contents : List β := job.pieces.flatten

/-- Remove the temporary file after a rename that failed. -/
def cleanUp (message : String) : Prog (FileOp P β) FileOp.Reply (Except ε Unit) :=
  .ask (.remove job.temp) fun _ => .ret (.error (job.renameError message))

def rename : Prog (FileOp P β) FileOp.Reply (Except ε Unit) :=
  .ask (.rename job.temp job.target) fun
    | .ok _ => .ret (.ok ())
    | .error message => job.cleanUp message

/-- Write the pieces one after another, and rename. -/
def write : List (List β) → Prog (FileOp P β) FileOp.Reply (Except ε Unit)
  | [] => job.rename
  | piece :: pieces =>
    .ask (.write job.temp piece) fun
      | .ok _ => write pieces
      | .error message => .ret (.error (job.writeError message))

def save : Prog (FileOp P β) FileOp.Reply (Except ε Unit) :=
  .ask (.create job.temp) fun
    | .ok _ => job.write job.pieces
    | .error message => .ret (.error (job.writeError message))

/-- How far a replacement has come. -/
inductive Stage (p : Prog (FileOp P β) FileOp.Reply (Except ε Unit)) (fs : FileSystem P β) : Prop
  | start (same : p = job.save)
  | writing (written rest : List (List β)) (same : p = job.write rest)
    (all : written ++ rest = job.pieces) (held : fs.files job.temp = some written.flatten)
  | cleaning (message : String) (same : p = job.cleanUp message)
  | failed (error : ε) (same : p = .ret (.error error))
  | saved (same : p = .ret (.ok ())) (renamed : (job.temp, job.target) ∈ fs.renames)

/-! ### Alone -/

/-- What a replacement does when nobody else uses the files: it reports a failed
write or rename and leaves the target, or it moves the contents there. -/
def Outcome (files : P → Option (List β)) (out : Except ε Unit) (after : P → Option (List β)) :
    Prop :=
  (∃ message left, out = .error (job.writeError message) ∧
    after = Function.update files job.temp left) ∨
  (∃ message left, out = .error (job.renameError message) ∧
    after = Function.update files job.temp left) ∨
  out = .ok () ∧
    after = Function.update (Function.update files job.temp none) job.target (some job.contents)

theorem run_write {job : Replacement P β ε} (faults : Nat → Option FileFault)
    {files : P → Option (List β)} {fs : FileSystem P β} {written rest : List (List β)}
    (all : written ++ rest = job.pieces)
    (held : fs.files = Function.update files job.temp (some written.flatten)) :
    ∃ out fs', (job.write rest).run (FileSystem.serve faults) fs = (.ok out, fs') ∧
      job.Outcome files out fs'.files := by
  have atTemp : fs.files job.temp = some written.flatten := by
    rw [held, Function.update_self]
  induction rest generalizing written fs with
  | nil =>
      have complete : written.flatten = job.contents := by
        rw [contents, ← all, List.append_nil]
      rcases FileSystem.serve_rename faults atTemp job.target with
        ⟨message, fs₁, failed, same, -⟩ | ⟨fs₁, done, moved, -⟩
      · obtain ⟨reply, left, fs₂, removed, after⟩ := FileSystem.serve_remove faults fs₁ job.temp
        refine ⟨_, fs₂, ?_, .inr (.inl ⟨message, left, rfl, ?_⟩)⟩
        · rw [write, rename, Prog.run_ask_ok failed]
          exact Prog.run_ask_ok removed
        · rw [after, same, held, Function.update_idem]
      · refine ⟨_, fs₁, ?_, .inr (.inr ⟨rfl, ?_⟩)⟩
        · rw [write, rename, Prog.run_ask_ok done]
          rfl
        · rw [moved, held, Function.update_idem, complete]
  | cons piece rest ih =>
      rcases FileSystem.serve_write faults atTemp piece with
        ⟨message, left, fs₁, failed, after⟩ | ⟨fs₁, done, after⟩
      · refine ⟨_, fs₁, ?_, .inl ⟨message, left, rfl, ?_⟩⟩
        · rw [write, Prog.run_ask_ok failed]
          rfl
        · rw [after, held, Function.update_idem]
      · have more : written ++ [piece] ++ rest = job.pieces := by
          rw [← all, List.append_assoc, List.singleton_append]
        rw [held, Function.update_idem, ← List.flatten_concat] at after
        rw [write, Prog.run_ask_ok done]
        exact ih more after (by rw [after, Function.update_self])

/-- A replacement that is alone always ends, in one of three ways. -/
theorem run_save (job : Replacement P β ε) (faults : Nat → Option FileFault)
    (fs : FileSystem P β) :
    ∃ out fs', job.save.run (FileSystem.serve faults) fs = (.ok out, fs') ∧
      job.Outcome fs.files out fs'.files := by
  rcases FileSystem.serve_create faults fs job.temp with
    ⟨message, fs₁, failed, same⟩ | ⟨fs₁, done, after⟩
  · refine ⟨_, fs₁, ?_, .inl ⟨message, fs.files job.temp, rfl, ?_⟩⟩
    · rw [save, Prog.run_ask_ok failed]
      rfl
    · rw [same, Function.update_eq_self]
  · rw [save, Prog.run_ask_ok done]
    have fromEmpty : [] ++ job.pieces = job.pieces := rfl
    exact run_write faults fromEmpty after

/-! ### Many of them on one target -/

/-- The target is as it was, or holds the contents of the replacement that was
renamed last. -/
def Atomic {κ : Type} (jobs : κ → Replacement P β ε) (target : P) (original : Option (List β))
    (fs : FileSystem P β) : Prop :=
  (fs.renames = [] ∧ fs.files target = original) ∨
    ∃ k earlier, fs.renames = ((jobs k).temp, target) :: earlier ∧
      fs.files target = some (jobs k).contents

section

variable {job} {κ : Type} {jobs : κ → Replacement P β ε} {target : P}
  {original : Option (List β)} {faults : Nat → Option FileFault} {fs : FileSystem P β}

/-- An operation on other files than the temporary one leaves the stage. -/
theorem stage_serve {p : Prog (FileOp P β) FileOp.Reply (Except ε Unit)} {op : FileOp P β}
    (other : ¬op.Names job.temp) (stage : job.Stage p fs) :
    job.Stage p (fs.serve faults op).2 := by
  cases stage with
  | start same => exact .start same
  | writing written rest same all held =>
      refine .writing written rest same all ?_
      rw [FileSystem.serve_frame other, held]
  | cleaning message same => exact .cleaning message same
  | failed error same => exact .failed error same
  | saved same renamed => exact .saved same (FileSystem.mem_renames_serve renamed)

/-- An operation on another file than the target leaves the target. -/
theorem atomic_serve {op : FileOp P β} (other : ¬op.Names target)
    (notRename : ∀ source target, op ≠ .rename source target)
    (atomic : Atomic jobs target original fs) :
    Atomic jobs target original (fs.serve faults op).2 := by
  unfold Atomic
  rw [FileSystem.renames_serve notRename, FileSystem.serve_frame other]
  exact atomic

/-- What the next operation of a replacement does, and where it leads. -/
theorem own_serve {k : κ} {op : FileOp P β}
    {next : op.Reply → Prog (FileOp P β) FileOp.Reply (Except ε Unit)}
    {out : Except Empty op.Reply} {fs' : FileSystem P β}
    (sameTarget : (jobs k).target = target) (notTarget : (jobs k).temp ≠ target)
    (atomic : Atomic jobs target original fs) (stage : (jobs k).Stage (.ask op next) fs)
    (served : fs.serve faults op = (out, fs')) :
    Atomic jobs target original fs' ∧ (∀ reply, out = .ok reply → (jobs k).Stage (next reply) fs') ∧
      ∀ path, op.Names path → path = (jobs k).temp ∨ path = target := by
  have kept (other : ¬op.Names target) (notRename : ∀ source target, op ≠ .rename source target) :
      Atomic jobs target original fs' := by
    have kept : Atomic jobs target original (fs.serve faults op).2 :=
      atomic_serve other notRename atomic
    rwa [served] at kept
  cases stage with
  | start same =>
      cases same
      refine ⟨kept notTarget.symm nofun, fun reply answered => ?_, fun _ => .inl⟩
      rcases FileSystem.serve_create faults fs (jobs k).temp with
        ⟨message, fs₁, failed, -⟩ | ⟨fs₁, done, files⟩
      · rw [failed] at served
        cases served
        cases answered
        exact .failed _ rfl
      · rw [done] at served
        cases served
        cases answered
        exact .writing [] _ rfl rfl (by rw [files, Function.update_self, List.flatten_nil])
  | writing written rest same all held =>
      cases rest with
      | cons piece rest =>
          cases same
          refine ⟨kept notTarget.symm nofun, fun reply answered => ?_, fun _ => .inl⟩
          rcases FileSystem.serve_write faults held piece with
            ⟨message, left, fs₁, failed, -⟩ | ⟨fs₁, done, files⟩
          · rw [failed] at served
            cases served
            cases answered
            exact .failed _ rfl
          · rw [done] at served
            cases served
            cases answered
            refine .writing (written ++ [piece]) rest rfl ?_ ?_
            · rw [← all, List.append_assoc, List.singleton_append]
            · rw [files, Function.update_self, List.flatten_concat]
      | nil =>
          cases same
          rw [sameTarget] at served ⊢
          rcases FileSystem.serve_rename faults held target with
            ⟨message, fs₁, failed, files, renames⟩ | ⟨fs₁, done, files, renames⟩
          · rw [failed] at served
            cases served
            refine ⟨?_, fun reply answered => ?_, fun _ named => named⟩
            · unfold Atomic
              rw [files, renames]
              exact atomic
            · cases answered
              exact .cleaning message rfl
          · rw [done] at served
            cases served
            -- the temporary file held all of the pieces
            have moved : fs'.files target = some (jobs k).contents := by
              rw [files, Function.update_self, contents, ← all, List.append_nil]
            refine ⟨.inr ⟨k, fs.renames, renames, moved⟩, fun reply answered => ?_,
              fun _ named => named⟩
            cases answered
            refine .saved rfl ?_
            rw [renames, sameTarget]
            exact .head _
  | cleaning message same =>
      cases same
      exact ⟨kept notTarget.symm nofun, fun reply _ => .failed _ rfl, fun _ => .inl⟩
  | failed error same => cases same
  | saved same renamed => cases same

/-- **Replacing is atomic.**  However the replacements of a target are
interleaved, fail or stop, the target is as it was or holds the contents of the
replacement renamed last; and one that has succeeded was renamed. -/
theorem run_atomic [DecidableEq κ] (jobs : κ → Replacement P β ε) (target : P)
    (faults : Nat → Option FileFault)
    (sameTarget : ∀ k, (jobs k).target = target) (notTarget : ∀ k, (jobs k).temp ≠ target)
    (distinct : Function.Injective fun k => (jobs k).temp) (fresh : fs.renames = [])
    (schedule : List κ) :
    let reached := Clients.run (FileSystem.serve faults) schedule
      ⟨fun k => .ok (jobs k).save, fs⟩
    Atomic jobs target (fs.files target) reached.server ∧
      ∀ k, reached.progs k = .ok (.ret (.ok ())) →
        ((jobs k).temp, target) ∈ reached.server.renames := by
  intro reached
  have staged := Clients.run_stages (FileSystem.serve faults)
    (c := ⟨fun k => .ok (jobs k).save, fs⟩)
    (Atomic jobs target (fs.files target)) (fun k p fs => (jobs k).Stage p fs) ?_ schedule
    (.inl ⟨fresh, rfl⟩) ?_
  · refine ⟨staged.1, fun k ended => ?_⟩
    cases staged.2 k _ ended with
    | saved _ renamed => rwa [sameTarget] at renamed
    | start same => cases same
    | writing written rest same _ _ => cases rest <;> cases same
    | cleaning message same => cases same
    | failed error same => cases same
  · intro k op next fs out fs' atomic stage served
    obtain ⟨kept, later, names⟩ := own_serve (sameTarget k) (notTarget k) atomic stage served
    refine ⟨kept, later, fun j p other stage' => ?_⟩
    have foreign : ¬op.Names (jobs j).temp := by
      intro named
      rcases names _ named with same | same
      · exact other (distinct same)
      · exact notTarget j same
    have left : (jobs j).Stage p (fs.serve faults op).2 := stage_serve foreign stage'
    rwa [served] at left
  · intro k p atStart
    cases atStart
    exact .start rfl

end

end Replacement

end

end SorobanFork.Lib
