import SorobanFork.Lib.Prog

/-!
# Programs behind programs

* `Prog.translate f` answers each query of a program by a program of its own.
  To run the result is to run the first program with its queries served by runs
  of the second (`Prog.run_translate`).
* `Prog.logged serve` serves like `serve` and keeps each query with its answer; a
  run does not see the difference (`Prog.run_logged`).
-/

namespace SorobanFork.Lib.Prog

universe u u' v v' w x y

section Translate

variable {Q : Type u} {R : Q → Type v} {Q' : Type u'} {R' : Q' → Type v'} {α : Type w} {β : Type x}
  {ε σ : Type y} {serve : (q : Q') → σ → Except ε (R' q) × σ}

/-- Answer each query by a program. -/
def translate (f : (q : Q) → Prog Q' R' (R q)) : Prog Q R α → Prog Q' R' α
  | .ret a => .ret a
  | .ask q next => (f q).bind fun r => (next r).translate f

theorem bind_assoc {γ : Type v} (p : Prog Q' R' γ) (f : γ → Prog Q' R' α) (g : α → Prog Q' R' β) :
    (p.bind f).bind g = p.bind fun c => (f c).bind g := by
  induction p with
  | ret c => rfl
  | ask q next ih => exact congrArg (Prog.ask q) (funext ih)

theorem run_bind (p : Prog Q' R' α) (f : α → Prog Q' R' β) (s : σ) :
    (p.bind f).run serve s =
      match p.run serve s with
      | (.ok a, s') => (f a).run serve s'
      | (.error e, s') => (.error e, s') := by
  induction p generalizing s with
  | ret a => rfl
  | ask q next ih =>
      rw [ask_bind]
      rcases served : serve q s with ⟨e | r, s'⟩
      · rw [run_ask_error served, run_ask_error served]
      · rw [run_ask_ok served, run_ask_ok served, ih r]

theorem translate_bind (f : (q : Q) → Prog Q' R' (R q)) (p : Prog Q R α) (next : α → Prog Q R β) :
    (p.bind next).translate f = (p.translate f).bind fun a => (next a).translate f := by
  induction p with
  | ret a => rfl
  | ask q rest ih =>
      rw [ask_bind, translate, translate, bind_assoc]
      exact congrArg (f q).bind (funext ih)

theorem run_translate (f : (q : Q) → Prog Q' R' (R q)) (p : Prog Q R α) (s : σ) :
    (p.translate f).run serve s = p.run (fun q => (f q).run serve) s := by
  induction p generalizing s with
  | ret a => rfl
  | ask q next ih =>
      rw [translate, run_bind, run]
      rcases (f q).run serve s with ⟨e | r, s'⟩
      · rfl
      · exact ih r s'

end Translate

section Logged

variable {Q : Type} {R : Q → Type} {ε σ α : Type}

/-- Serve, and keep the queries that were answered, with their answers. -/
def logged (serve : (q : Q) → σ → Except ε (R q) × σ) (q : Q) (s : σ × List ((q : Q) × R q)) :
    Except ε (R q) × σ × List ((q : Q) × R q) :=
  match serve q s.1 with
  | (.ok r, s') => (.ok r, s', s.2 ++ [⟨q, r⟩])
  | (.error e, s') => (.error e, s', s.2)

variable {serve : (q : Q) → σ → Except ε (R q) × σ} {s s' : σ} {log : List ((q : Q) × R q)}

theorem logged_ok {q : Q} {r : R q} (served : serve q s = (.ok r, s')) :
    logged serve q (s, log) = (.ok r, s', log ++ [⟨q, r⟩]) := by
  rw [logged, served]

theorem logged_error {q : Q} {e : ε} (served : serve q s = (.error e, s')) :
    logged serve q (s, log) = (.error e, s', log) := by
  rw [logged, served]

/-- Keeping a log changes no run. -/
theorem run_logged (p : Prog Q R α) :
    (p.run (logged serve) (s, log)).1 = (p.run serve s).1 ∧
      (p.run (logged serve) (s, log)).2.1 = (p.run serve s).2 := by
  induction p generalizing s log with
  | ret a => exact ⟨rfl, rfl⟩
  | ask q next ih =>
      rcases served : serve q s with ⟨e | r, s'⟩
      · rw [run_ask_error served, run_ask_error (logged_error served)]
        exact ⟨rfl, rfl⟩
      · rw [run_ask_ok served, run_ask_ok (logged_ok served)]
        exact ih r

end Logged

end SorobanFork.Lib.Prog
