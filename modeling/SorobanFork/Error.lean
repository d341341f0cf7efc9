/-!
# Errors of the crate (`error.rs`)

`Path` is as much of a `PathBuf` as the fork looks into: the directory and the
last component.
-/

namespace SorobanFork

/-- A path whose last component is Unicode text; `parent` is empty for a bare
file name. -/
structure Path : Type where
  parent : String
  fileName : String
deriving DecidableEq

def Path.display (path : Path) : String :=
  if path.parent = "" then path.fileName else s!"{path.parent}/{path.fileName}"

inductive ForkError : Type
  | transport (message : String)
  | rpcError (message : String)
  | rpcNoResult
  | xdr (message : String)
  | base64 (message : String)
  | json (message : String)
  | cache (path : Path) (message : String)
  | host (message : String)
  | workspace (message : String)
deriving DecidableEq

theorem except_ok_bind {ε α β : Type} (a : α) (f : α → Except ε β) :
    ((.ok a : Except ε α) >>= f) = f a := rfl

/-- What succeeded succeeded at each of its steps. -/
theorem except_bind_eq_ok {ε α β : Type} {x : Except ε α} {f : α → Except ε β} {b : β} :
    (x >>= f) = .ok b ↔ ∃ a, x = .ok a ∧ f a = .ok b := by
  cases x with
  | error e => simp [bind, Except.bind]
  | ok a => simp [bind, Except.bind]

/-- What ends in a pure step succeeded before it. -/
theorem except_map_eq_ok {ε α β : Type} {x : Except ε α} {f : α → β} {b : β} :
    x.map f = .ok b ↔ ∃ a, x = .ok a ∧ f a = b := by
  cases x with
  | error e => simp [Except.map]
  | ok a => simp [Except.map]

theorem except_mapError_eq_ok {ε ε' α : Type} {x : Except ε α} {f : ε → ε'} {a : α} :
    x.mapError f = .ok a ↔ x = .ok a := by
  cases x with
  | error e => exact ⟨nofun, nofun⟩
  | ok b =>
      exact ⟨fun same => congrArg Except.ok (Except.ok.inj same),
        fun same => congrArg Except.ok (Except.ok.inj same)⟩

end SorobanFork
