import Mathlib.Data.List.Forall2

/-!
# Machines that reply to their inputs

`Machine ι ο σ` is a deterministic machine: an input `i` in a state gives an
output in `ο i` and a next state.  `Machine.run` feeds it a list of inputs and
collects the outputs, each with its input.

* `Machine.run_invariant`, `Machine.run_history`: what one step preserves, a
  run preserves; the second form also speaks about the outputs so far.
* `Machine.AllSteps`: a condition on every step of a run.
* `Machine.run_refines`: a step-by-step simulation relates whole runs, output
  by output.
* `Machine.run_inserted`: two runs of one machine, the second with inputs
  inserted into those of the first; if the inserted inputs keep the two states
  related, the shared inputs get the same observed outputs.
-/

namespace SorobanFork.Lib

universe u v w x

/-- A deterministic machine that replies to each input. -/
structure Machine (ι : Type u) (ο : ι → Type v) (σ : Type w) : Type (max u v w) where
  step : (i : ι) → σ → ο i × σ

namespace Machine

variable {ι : Type u} {ο : ι → Type v} {σ : Type w} {τ : Type x}

/-- Feed a list of inputs to a machine; the outputs come in order, each with
its input. -/
def run (m : Machine ι ο σ) : List ι → σ → List (Σ i, ο i) × σ
  | [], s => ([], s)
  | i :: is, s =>
    let (o, s') := m.step i s
    let (os, s'') := m.run is s'
    (⟨i, o⟩ :: os, s'')

variable (m : Machine ι ο σ)

@[simp] theorem run_nil (s : σ) : m.run [] s = ([], s) := rfl

@[simp] theorem run_cons (i : ι) (is : List ι) (s : σ) :
    m.run (i :: is) s = (⟨i, (m.step i s).1⟩ :: (m.run is (m.step i s).2).1,
      (m.run is (m.step i s).2).2) := rfl

theorem run_append (is js : List ι) (s : σ) :
    m.run (is ++ js) s = ((m.run is s).1 ++ (m.run js (m.run is s).2).1,
      (m.run js (m.run is s).2).2) := by
  induction is generalizing s with
  | nil => rfl
  | cons i is ih => simp only [List.cons_append, run_cons, ih]

/-- `P s i` holds at every step of the run: `i` is the input, `s` the state it meets. -/
def AllSteps (P : σ → ι → Prop) : List ι → σ → Prop
  | [], _ => True
  | i :: is, s => P s i ∧ AllSteps P is (m.step i s).2

theorem allSteps_append {P : σ → ι → Prop} {is js : List ι} {s : σ} :
    m.AllSteps P (is ++ js) s ↔ m.AllSteps P is s ∧ m.AllSteps P js (m.run is s).2 := by
  induction is generalizing s with
  | nil => simp [AllSteps]
  | cons i is ih =>
      rw [List.cons_append, AllSteps, AllSteps, ih, run_cons, and_assoc]

/-- Conditions that each hold at every step hold together at every step. -/
theorem allSteps_forall {α : Type x} {P : α → σ → ι → Prop} {is : List ι} {s : σ}
    (each : ∀ a, m.AllSteps (P a) is s) : m.AllSteps (fun s i => ∀ a, P a s i) is s := by
  induction is generalizing s with
  | nil => trivial
  | cons i is ih => exact ⟨fun a => (each a).1, ih fun a => (each a).2⟩

/-- What a step preserves, a run preserves. -/
theorem run_invariant (inv : σ → Prop) (step : ∀ i s, inv s → inv (m.step i s).2)
    (is : List ι) {s : σ} (holds : inv s) : inv (m.run is s).2 := by
  induction is generalizing s with
  | nil => exact holds
  | cons i is ih => exact ih (step i s holds)

/-- What a step that meets `P` preserves, a run whose steps all meet `P` preserves. -/
theorem run_invariant_of (P : σ → ι → Prop) (inv : σ → Prop)
    (step : ∀ i s, P s i → inv s → inv (m.step i s).2) {is : List ι} {s : σ}
    (allowed : m.AllSteps P is s) (holds : inv s) : inv (m.run is s).2 := by
  induction is generalizing s with
  | nil => exact holds
  | cons i is ih => exact ih allowed.2 (step i s allowed.1 holds)

/-- A run preserves what each step preserves from its state to the next. -/
theorem run_rel (rel : σ → σ → Prop) (refl : ∀ s, rel s s)
    (trans : ∀ s₁ s₂ s₃, rel s₁ s₂ → rel s₂ s₃ → rel s₁ s₃)
    (step : ∀ i s, rel s (m.step i s).2) (is : List ι) (s : σ) : rel s (m.run is s).2 := by
  induction is generalizing s with
  | nil => exact refl s
  | cons i is ih => exact trans _ _ _ (step i s) (ih _)

/-- An invariant that also speaks about the outputs so far. -/
theorem run_history (inv : List (Σ i, ο i) → σ → Prop)
    (step : ∀ past i s, inv past s → inv (past ++ [⟨i, (m.step i s).1⟩]) (m.step i s).2)
    (is : List ι) {past : List (Σ i, ο i)} {s : σ} (holds : inv past s) :
    inv (past ++ (m.run is s).1) (m.run is s).2 := by
  induction is generalizing past s with
  | nil => simpa using holds
  | cons i is ih =>
      have next := ih (step past i s holds)
      rwa [List.append_assoc] at next

/-- **Run refinement.**  `R` relates the states of two machines with the same
inputs, `same` their outputs.  If each step that meets `P` keeps `R` and gives
related outputs, so does each run whose steps all meet `P`. -/
theorem run_refines {ο' : ι → Type v} (m' : Machine ι ο' τ) (R : σ → τ → Prop)
    (P : σ → ι → Prop) (same : (Σ i, ο i) → (Σ i, ο' i) → Prop)
    (step : ∀ {i s t}, P s i → R s t →
      same ⟨i, (m.step i s).1⟩ ⟨i, (m'.step i t).1⟩ ∧ R (m.step i s).2 (m'.step i t).2)
    (is : List ι) {s : σ} {t : τ} (allowed : m.AllSteps P is s) (related : R s t) :
    List.Forall₂ same (m.run is s).1 (m'.run is t).1 ∧ R (m.run is s).2 (m'.run is t).2 := by
  induction is generalizing s t with
  | nil => exact ⟨.nil, related⟩
  | cons i is ih =>
      obtain ⟨first, rest⟩ := allowed
      obtain ⟨out, next⟩ := step first related
      obtain ⟨outs, last⟩ := ih rest next
      exact ⟨.cons out outs, last⟩

end Machine

/-! ### Two runs, one with inserted inputs -/

/-- An input of a pair of runs: given in both, or inserted in the second one. -/
inductive Paired (ι : Type u) : Type u
  | both (i : ι)
  | extra (i : ι)
deriving DecidableEq

namespace Paired

variable {ι : Type u}

/-- The inputs of the first run. -/
def fewer : List (Paired ι) → List ι
  | [] => []
  | .both i :: script => i :: fewer script
  | .extra _ :: script => fewer script

/-- The inputs of the second run. -/
def more : List (Paired ι) → List ι
  | [] => []
  | .both i :: script => i :: more script
  | .extra i :: script => i :: more script

/-- Of a list that follows the second run, the elements at the inputs both runs have. -/
def atBoth {α : Type v} : List (Paired ι) → List α → List α
  | .both _ :: script, a :: l => a :: atBoth script l
  | .extra _ :: script, _ :: l => atBoth script l
  | _, _ => []

end Paired

namespace Machine

variable {ι : Type u} {ο : ι → Type v} {σ : Type w} (m : Machine ι ο σ)

/-- `P s t i` holds at every input both runs have: `s` and `t` are the states it meets. -/
def AllBoth (P : σ → σ → ι → Prop) : List (Paired ι) → σ → σ → Prop
  | [], _, _ => True
  | .both i :: script, s, t => P s t i ∧ AllBoth P script (m.step i s).2 (m.step i t).2
  | .extra i :: script, s, t => AllBoth P script s (m.step i t).2

/-- **Inserted inputs.**  If an inserted input keeps `R`, and a shared one that
meets `P` keeps `R` and gives outputs with the same observation, then the two
runs observe the same at their shared inputs. -/
theorem run_inserted {β : Type x} (R : σ → σ → Prop) (P : σ → σ → ι → Prop) (Q : ι → Prop)
    (observe : (Σ i, ο i) → β)
    (extra : ∀ {i s t}, Q i → R s t → R s (m.step i t).2)
    (both : ∀ {i s t}, P s t i → R s t →
      observe ⟨i, (m.step i s).1⟩ = observe ⟨i, (m.step i t).1⟩ ∧
        R (m.step i s).2 (m.step i t).2)
    {script : List (Paired ι)} {s t : σ} (quiet : ∀ i, .extra i ∈ script → Q i)
    (allowed : m.AllBoth P script s t) (related : R s t) :
    (m.run (Paired.fewer script) s).1.map observe =
      (Paired.atBoth script (m.run (Paired.more script) t).1).map observe := by
  induction script generalizing s t with
  | nil => rfl
  | cons input script ih =>
      have rest : ∀ i, .extra i ∈ script → Q i := fun i mem => quiet i (.tail _ mem)
      cases input with
      | extra i => exact ih rest allowed (extra (quiet i (.head _)) related)
      | both i =>
          obtain ⟨here, later⟩ := allowed
          obtain ⟨same, next⟩ := both here related
          rw [Paired.fewer, Paired.more, run_cons, run_cons, Paired.atBoth, List.map_cons,
            List.map_cons, same, ih rest later next]

end Machine

end SorobanFork.Lib
