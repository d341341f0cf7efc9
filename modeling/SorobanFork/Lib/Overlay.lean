import Mathlib.Data.List.Nodup

/-!
# Partial maps and overlays

A partial map `m : K → Option V` holds values for some keys.  `overlay m base`
reads `m` where it holds a value and `base` elsewhere: it is what a reader sees
of a cache `m` in front of a store `base`.

Writing to the cache writes to the overlay (`overlay_update`), and remembering
what the overlay shows already changes nothing (`overlay_remember`).
`writeAll_of_mem` and `writeAll_of_not_mem` say what a list of writes leaves;
neither its order (`writeAll_perm`) nor a repetition (`writeAll_writeAll`) matters.
-/

namespace SorobanFork.Lib

universe u v w

variable {K : Type u} {V : Type v}

/-- `m'` holds everything `m` holds. -/
def Extends (m m' : K → Option V) : Prop := ∀ k v, m k = some v → m' k = some v

/-- `m` where it holds a value, `base` elsewhere. -/
def overlay (m base : K → Option V) : K → Option V := fun k => (m k).or (base k)

namespace Extends

variable {m m₁ m₂ m₃ : K → Option V}

theorem refl (m : K → Option V) : Extends m m := fun _ _ held => held

theorem trans (first : Extends m₁ m₂) (second : Extends m₂ m₃) : Extends m₁ m₃ :=
  fun k v held => second k v (first k v held)

/-- Learning the value of a key the map does not hold extends the map. -/
theorem update_of_none [DecidableEq K] {k : K} (miss : m k = none) (value : Option V) :
    Extends m (Function.update m k value) := by
  intro key v held
  have other : key ≠ k := by
    rintro rfl
    rw [miss] at held
    cases held
  rwa [Function.update_of_ne other]

end Extends

variable {m base : K → Option V} {k : K} {v : V}

theorem overlay_of_some (held : m k = some v) : overlay m base k = some v := by
  rw [overlay, held, Option.some_or]

theorem overlay_of_none (miss : m k = none) : overlay m base k = base k := by
  rw [overlay, miss, Option.none_or]

section Update

variable [DecidableEq K]

theorem overlay_update :
    overlay (Function.update m k (some v)) base = Function.update (overlay m base) k (some v) := by
  funext key
  by_cases same : key = k
  · subst same
    rw [Function.update_self, overlay, Function.update_self, Option.some_or]
  · rw [Function.update_of_ne same, overlay, Function.update_of_ne same, overlay]

/-- Remembering what the overlay shows changes nothing that it shows. -/
theorem overlay_remember (shown : overlay m base k = some v) :
    overlay (Function.update m k (some v)) base = overlay m base := by
  rw [overlay_update, ← shown, Function.update_eq_self]

variable {E : Type w} (key : E → K) (val : E → V)

/-- Write a list of entries to a map, in order. -/
def writeAll (entries : List E) (m : K → Option V) : K → Option V :=
  entries.foldl (fun m e => Function.update m (key e) (some (val e))) m

theorem writeAll_of_not_mem {entries : List E} (notMem : ∀ e ∈ entries, key e ≠ k) :
    writeAll key val entries m k = m k := by
  induction entries generalizing m with
  | nil => rfl
  | cons e entries ih =>
      rw [writeAll, List.foldl_cons]
      refine (ih fun e mem => notMem e (.tail _ mem)).trans ?_
      exact Function.update_of_ne (notMem e (.head _)).symm _ _

/-- A key that is written holds the value of one of its writes. -/
theorem exists_writeAll_of_mem {entries : List E} (mem : ∃ e ∈ entries, key e = k) :
    ∃ e ∈ entries, key e = k ∧ writeAll key val entries m k = some (val e) := by
  induction entries generalizing m with
  | nil =>
      obtain ⟨e, mem, -⟩ := mem
      cases mem
  | cons e entries ih =>
      rw [writeAll, List.foldl_cons]
      by_cases later : ∃ e ∈ entries, key e = k
      · obtain ⟨e', mem, same, written⟩ := ih later
        exact ⟨e', .tail _ mem, same, written⟩
      · have notMem : ∀ e ∈ entries, key e ≠ k := fun e mem same => later ⟨e, mem, same⟩
        have here : key e = k := by
          obtain ⟨e', mem, same⟩ := mem
          rcases List.mem_cons.mp mem with rfl | mem
          · exact same
          · exact absurd same (notMem e' mem)
        refine ⟨e, .head _, here, (writeAll_of_not_mem key val notMem).trans ?_⟩
        rw [here, Function.update_self]

/-- The last write to a key decides. -/
theorem writeAll_of_last {before after : List E} {e : E}
    (last : ∀ e' ∈ after, key e' ≠ key e) :
    writeAll key val (before ++ e :: after) m (key e) = some (val e) := by
  rw [writeAll, List.foldl_append, List.foldl_cons]
  refine (writeAll_of_not_mem key val last).trans ?_
  exact Function.update_self _ _ _

/-- Entries that agree on `k` write the value they agree on. -/
theorem writeAll_of_mem {entries : List E} (mem : ∃ e ∈ entries, key e = k)
    (agree : ∀ e ∈ entries, key e = k → val e = v) :
    writeAll key val entries m k = some v := by
  obtain ⟨e, mem, same, written⟩ := exists_writeAll_of_mem key val mem
  rw [written, agree e mem same]

/-- What a list writes to `k` does not depend on the map it is written to. -/
theorem writeAll_eq_of_mem {entries : List E} {m' : K → Option V}
    (mem : ∃ e ∈ entries, key e = k) :
    writeAll key val entries m k = writeAll key val entries m' k := by
  induction entries generalizing m m' with
  | nil =>
      obtain ⟨e, mem, -⟩ := mem
      cases mem
  | cons e entries ih =>
      rw [writeAll, List.foldl_cons, writeAll, List.foldl_cons]
      by_cases later : ∃ e ∈ entries, key e = k
      · exact ih later
      · have notMem : ∀ e ∈ entries, key e ≠ k := fun e mem same => later ⟨e, mem, same⟩
        obtain ⟨e', mem, same⟩ := mem
        rcases List.mem_cons.mp mem with rfl | mem
        · refine (writeAll_of_not_mem key val notMem).trans (.trans ?_
            (writeAll_of_not_mem key val notMem).symm)
          rw [same, Function.update_self, Function.update_self]
        · exact absurd same (notMem e' mem)

/-- Writing a list a second time changes nothing. -/
theorem writeAll_writeAll (entries : List E) :
    writeAll key val entries (writeAll key val entries m) = writeAll key val entries m := by
  funext k
  by_cases mem : ∃ e ∈ entries, key e = k
  · exact writeAll_eq_of_mem key val mem
  · exact writeAll_of_not_mem key val fun e listed same => mem ⟨e, listed, same⟩

/-- The order of writes to different keys does not matter. -/
theorem writeAll_perm {entries entries' : List E} (distinct : (entries.map key).Nodup)
    (perm : entries'.Perm entries) : writeAll key val entries' m = writeAll key val entries m := by
  funext k
  by_cases mem : ∃ e ∈ entries, key e = k
  · obtain ⟨e, listed, rfl⟩ := mem
    have agree : ∀ e' ∈ entries, key e' = key e → val e' = val e := fun e' listed' same =>
      congrArg val (List.inj_on_of_nodup_map distinct listed' listed same)
    rw [writeAll_of_mem key val ⟨e, listed, rfl⟩ agree, writeAll_of_mem key val
      ⟨e, perm.mem_iff.mpr listed, rfl⟩ fun e' listed' => agree e' (perm.mem_iff.mp listed')]
  · have notMem : ∀ e ∈ entries, key e ≠ k := fun e listed same => mem ⟨e, listed, same⟩
    rw [writeAll_of_not_mem key val notMem, writeAll_of_not_mem key val fun e listed =>
      notMem e (perm.mem_iff.mp listed)]

end Update

end SorobanFork.Lib
