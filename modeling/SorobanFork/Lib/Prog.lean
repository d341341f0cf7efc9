import Mathlib.Logic.Relation

/-!
# Programs that ask queries

`Prog Q R α` is a program that asks queries `q : Q`, receives an answer in
`R q` for each, and returns an `α`.  It is a finite tree, so it terminates
whatever the answers are.

* `Prog.run serve` answers the queries by a stateful server, which may also
  fail; a failure ends the program.
* `Prog.eval answer` answers them by a fixed table, which may have gaps;
  `Prog.value table` by one that has none.

The rules relate a run to the server it talks to:

* `Prog.run_rel`: what every query preserves, a run preserves;
* `Prog.run_congr`: servers that do the same where a run takes them run a program
  alike;
* `Prog.run_eq_eval`: a server that keeps answering from one table runs a
  program to the value the table gives it;
* `Prog.run_ok_eq_value`: the same for a server that may also fail, for the runs
  that succeed;
* `Prog.run_ok_asked`: a server that remembers what it answered knows, after a
  successful run, the answer to every query asked;
* `Prog.Meets`: what a program asks and returns, given what it is answered; the
  rule that composes such programs is about clients of one server;
* `Prog.rel_of_clean`: a program that never ends badly after a query that may
  change the server changes nothing when it ends badly;
* `Prog.AtMost`: how many queries a program may ask.
-/

namespace SorobanFork.Lib

universe u v w x y

/-- A program that asks queries of type `Q` and returns an `α`. -/
inductive Prog (Q : Type u) (R : Q → Type v) (α : Type w) : Type (max u v w)
  | ret (a : α) : Prog Q R α
  | ask (q : Q) (next : R q → Prog Q R α) : Prog Q R α

namespace Prog

variable {Q : Type u} {R : Q → Type v} {α : Type w} {β : Type x} {ε σ : Type y}

def bind : Prog Q R α → (α → Prog Q R β) → Prog Q R β
  | .ret a, f => f a
  | .ask q next, f => .ask q fun r => (next r).bind f

instance : Monad (Prog Q R) where
  pure := .ret
  bind := bind

/-- Ask one query and return its answer. -/
def query (q : Q) : Prog Q R (R q) := .ask q .ret

/-- Answer the queries by a stateful server; its failure ends the program. -/
def run (serve : (q : Q) → σ → Except ε (R q) × σ) : Prog Q R α → σ → Except ε α × σ
  | .ret a, s => (.ok a, s)
  | .ask q next, s =>
    match serve q s with
    | (.ok r, s') => run serve (next r) s'
    | (.error e, s') => (.error e, s')

/-- Answer the queries from a table; a missing answer ends the program. -/
def eval (answer : (q : Q) → Except ε (R q)) : Prog Q R α → Except ε α
  | .ret a => .ok a
  | .ask q next =>
    match answer q with
    | .ok r => eval answer (next r)
    | .error e => .error e

/-- The value of a program whose queries are all answered from a table. -/
def value (table : (q : Q) → R q) : Prog Q R α → α
  | .ret a => a
  | .ask q next => value table (next (table q))

/-- The queries a program asks when they are all answered from a table. -/
def asked (table : (q : Q) → R q) : Prog Q R α → List Q
  | .ret _ => []
  | .ask q next => q :: asked table (next (table q))

@[simp] theorem ret_bind (a : α) (f : α → Prog Q R β) : (Prog.ret a).bind f = f a := rfl

@[simp] theorem ask_bind (q : Q) (next : R q → Prog Q R α) (f : α → Prog Q R β) :
    (Prog.ask q next).bind f = .ask q fun r => (next r).bind f := rfl

@[simp] theorem bind_eq_bind {α β : Type w} (p : Prog Q R α) (f : α → Prog Q R β) :
    p >>= f = p.bind f := rfl

section Run

variable {serve : (q : Q) → σ → Except ε (R q) × σ}

@[simp] theorem run_ret (a : α) (s : σ) : (Prog.ret a : Prog Q R α).run serve s = (.ok a, s) := rfl

theorem run_ask_ok {q : Q} {next : R q → Prog Q R α} {s s' : σ} {r : R q}
    (served : serve q s = (.ok r, s')) :
    (Prog.ask q next).run serve s = (next r).run serve s' := by
  rw [run, served]

theorem run_ask_error {q : Q} {next : R q → Prog Q R α} {s s' : σ} {e : ε}
    (served : serve q s = (.error e, s')) :
    (Prog.ask q next).run serve s = (.error e, s') := by
  rw [run, served]

/-- A query failed, or was answered and the rest ran. -/
theorem run_ask_cases {q : Q} {next : R q → Prog Q R α} {s s' : σ} {out : Except ε α}
    (ran : (Prog.ask q next).run serve s = (out, s')) :
    (∃ e, serve q s = (.error e, s') ∧ out = .error e) ∨
      ∃ r s₁, serve q s = (.ok r, s₁) ∧ (next r).run serve s₁ = (out, s') := by
  rcases h : serve q s with ⟨e | r, s₁⟩
  · rw [run_ask_error h] at ran
    obtain ⟨rfl, rfl⟩ := Prod.mk.inj ran
    exact .inl ⟨e, rfl, rfl⟩
  · rw [run_ask_ok h] at ran
    exact .inr ⟨r, s₁, rfl, ran⟩

theorem run_bind_ok {p : Prog Q R α} {f : α → Prog Q R β} {s s' : σ} {a : α}
    (ran : p.run serve s = (.ok a, s')) : (p.bind f).run serve s = (f a).run serve s' := by
  induction p generalizing s with
  | ret b =>
      obtain ⟨same, rfl⟩ := Prod.mk.inj ran
      rw [ret_bind, Except.ok.inj same]
  | ask q next ih =>
      rw [ask_bind]
      rcases h : serve q s with ⟨e | r, s₁⟩
      · rw [run_ask_error h] at ran
        cases ran
      · rw [run_ask_ok h] at ran
        rw [run_ask_ok h, ih r ran]

theorem run_bind_error {p : Prog Q R α} {f : α → Prog Q R β} {s s' : σ} {e : ε}
    (ran : p.run serve s = (.error e, s')) : (p.bind f).run serve s = (.error e, s') := by
  induction p generalizing s with
  | ret b => cases ran
  | ask q next ih =>
      rw [ask_bind]
      rcases h : serve q s with ⟨e₁ | r, s₁⟩
      · rw [run_ask_error h] at ran
        obtain ⟨same, rfl⟩ := Prod.mk.inj ran
        rw [run_ask_error h, Except.error.inj same]
      · rw [run_ask_ok h] at ran
        rw [run_ask_ok h, ih r ran]

/-- What every query preserves, a whole run preserves. -/
theorem run_rel (rel : σ → σ → Prop) (refl : ∀ s, rel s s)
    (trans : ∀ s₁ s₂ s₃, rel s₁ s₂ → rel s₂ s₃ → rel s₁ s₃)
    (served : ∀ q s, rel s (serve q s).2) (p : Prog Q R α) (s : σ) :
    rel s (p.run serve s).2 := by
  induction p generalizing s with
  | ret a => exact refl s
  | ask q next ih =>
      have first := served q s
      rcases h : serve q s with ⟨r | r, s'⟩
      · rw [run_ask_error h]
        rw [h] at first
        exact first
      · rw [run_ask_ok h]
        rw [h] at first
        exact trans _ _ _ first (ih r s')

/-- A server that answers from the table `answer` in every state satisfying
`inv`, and keeps `inv`, runs a program to its value under the table. -/
theorem run_eq_eval (answer : (q : Q) → Except ε (R q)) (inv : σ → Prop)
    (served : ∀ q s, inv s → (serve q s).1 = answer q ∧ inv (serve q s).2)
    (p : Prog Q R α) {s : σ} (holds : inv s) :
    (p.run serve s).1 = p.eval answer ∧ inv (p.run serve s).2 := by
  induction p generalizing s with
  | ret a => exact ⟨rfl, holds⟩
  | ask q next ih =>
      obtain ⟨answered, kept⟩ := served q s holds
      rcases h : serve q s with ⟨e | r, s'⟩
      · rw [h] at answered kept
        rw [run_ask_error h, eval, ← answered]
        exact ⟨rfl, kept⟩
      · rw [h] at answered kept
        rw [run_ask_ok h, eval, ← answered]
        exact ih r kept

/-- Two servers that do the same in every state satisfying `inv`, which they keep,
run a program alike. -/
theorem run_congr {serve' : (q : Q) → σ → Except ε (R q) × σ} (inv : σ → Prop)
    (same : ∀ q s, inv s → serve' q s = serve q s) (kept : ∀ q s, inv s → inv (serve q s).2)
    (p : Prog Q R α) {s : σ} (holds : inv s) : p.run serve' s = p.run serve s := by
  induction p generalizing s with
  | ret a => rfl
  | ask q next ih =>
      have after := kept q s holds
      have served := same q s holds
      rcases h : serve q s with ⟨e | r, s'⟩
      · rw [run_ask_error (served.trans h), run_ask_error h]
      · rw [run_ask_ok (served.trans h), run_ask_ok h]
        rw [h] at after
        exact ih r after

/-- A run that succeeded against a server that only gives answers from `table`
has the value of the table. -/
theorem run_ok_eq_value (table : (q : Q) → R q) (inv : σ → Prop)
    (served : ∀ {q s r s'}, inv s → serve q s = (.ok r, s') → r = table q ∧ inv s')
    (p : Prog Q R α) {s s' : σ} {a : α} (ran : p.run serve s = (.ok a, s')) (holds : inv s) :
    p.value table = a := by
  induction p generalizing s with
  | ret b =>
      obtain ⟨same, -⟩ := Prod.mk.inj ran
      exact Except.ok.inj same
  | ask q next ih =>
      rcases h : serve q s with ⟨e | r, s₁⟩
      · rw [run_ask_error h] at ran
        cases ran
      · rw [run_ask_ok h] at ran
        obtain ⟨rfl, kept⟩ := served holds h
        exact ih _ ran kept

end Run

/-! ### Clean programs -/

/-- `p` never ends badly once one of its queries was loud; `past` says whether
one already was. -/
def Clean (loud : (q : Q) → R q → Prop) (bad : α → Prop) : Prog Q R α → Prop → Prop
  | .ret a, past => past → ¬bad a
  | .ask q next, past => ∀ r, Clean loud bad (next r) (past ∨ loud q r)

section Clean

variable {loud : (q : Q) → R q → Prop} {bad : α → Prop} {past : Prop}
  {serve : (q : Q) → σ → Except ε (R q) × σ}

theorem clean_ret {a : α} (fine : past → ¬bad a) : (Prog.ret a : Prog Q R α).Clean loud bad past :=
  fine

theorem clean_ask {q : Q} {next : R q → Prog Q R α}
    (rest : ∀ r, (next r).Clean loud bad (past ∨ loud q r)) :
    (Prog.ask q next).Clean loud bad past :=
  rest

/-- **Bad ends change nothing.**  If every query that is not loud preserves
`rel`, then so does a run of a clean program that ends badly. -/
theorem rel_of_clean (rel : σ → σ → Prop) (refl : ∀ s, rel s s)
    (trans : ∀ s₁ s₂ s₃, rel s₁ s₂ → rel s₂ s₃ → rel s₁ s₃)
    (quiet : ∀ q s r s', serve q s = (.ok r, s') → ¬loud q r → rel s s')
    {p : Prog Q R α} {s s' : σ} {a : α} (clean : p.Clean loud bad past)
    (ran : p.run serve s = (.ok a, s')) (ended : bad a) : ¬past ∧ rel s s' := by
  induction p generalizing past s with
  | ret b =>
      obtain ⟨same, rfl⟩ := Prod.mk.inj ran
      rw [← Except.ok.inj same] at ended
      exact ⟨fun happened => clean happened ended, refl s⟩
  | ask q next ih =>
      rcases h : serve q s with ⟨e | r, s₁⟩
      · rw [run_ask_error h] at ran
        cases ran
      · rw [run_ask_ok h] at ran
        obtain ⟨noneLoud, rest⟩ := ih r (clean r) ran
        obtain ⟨notPast, notLoud⟩ := not_or.mp noneLoud
        exact ⟨notPast, trans _ _ _ (quiet _ _ _ _ h notLoud) rest⟩

end Clean

/-! ### Programs that keep to an agreement -/

/-- As long as it is answered with replies that `gives` allows, `p` asks only
queries that `asks` allows, and it ends in a value that meets `post`. -/
def Meets (asks : Q → Prop) (gives : (q : Q) → R q → Prop) (post : α → Prop) :
    Prog Q R α → Prop
  | .ret a => post a
  | .ask q next => asks q ∧ ∀ r, gives q r → Meets asks gives post (next r)

section Meets

variable {asks : Q → Prop} {gives : (q : Q) → R q → Prop} {post : α → Prop}

@[simp] theorem meets_ret {a : α} :
    (Prog.ret a : Prog Q R α).Meets asks gives post ↔ post a := Iff.rfl

@[simp] theorem meets_ask {q : Q} {next : R q → Prog Q R α} :
    (Prog.ask q next).Meets asks gives post ↔
      asks q ∧ ∀ r, gives q r → (next r).Meets asks gives post := Iff.rfl

end Meets

/-! ### The number of queries -/

/-- Whatever it is answered, the program asks at most so many queries. -/
def AtMost : Prog Q R α → Nat → Prop
  | .ret _, _ => True
  | .ask _ _, 0 => False
  | .ask _ next, n + 1 => ∀ r, (next r).AtMost n

@[simp] theorem atMost_ret (a : α) (n : Nat) : (Prog.ret a : Prog Q R α).AtMost n := trivial

@[simp] theorem atMost_ask {q : Q} {next : R q → Prog Q R α} {n : Nat} :
    (Prog.ask q next).AtMost (n + 1) ↔ ∀ r, (next r).AtMost n := Iff.rfl

theorem AtMost.mono {p : Prog Q R α} {n m : Nat} (few : p.AtMost n) (le : n ≤ m) :
    p.AtMost m := by
  induction p generalizing n m with
  | ret a => trivial
  | ask q next ih =>
      cases n with
      | zero => exact few.elim
      | succ n =>
          cases m with
          | zero => exact absurd le (Nat.not_succ_le_zero n)
          | succ m => exact fun r => ih r (few r) (Nat.le_of_succ_le_succ le)

theorem AtMost.bind {p : Prog Q R α} {f : α → Prog Q R β} {n m : Nat} (few : p.AtMost n)
    (rest : ∀ a, (f a).AtMost m) : (p.bind f).AtMost (n + m) := by
  induction p generalizing n with
  | ret a => exact (rest a).mono (Nat.le_add_left m n)
  | ask q next ih =>
      cases n with
      | zero => exact few.elim
      | succ n =>
          rw [Nat.succ_add]
          exact fun r => ih r (few r)

/-- A run that failed did so at a query. -/
theorem exists_query_of_run_error {serve : (q : Q) → σ → Except ε (R q) × σ} {p : Prog Q R α}
    {s s' : σ} {e : ε} (ran : p.run serve s = (.error e, s')) :
    ∃ q t, serve q t = (.error e, s') := by
  induction p generalizing s with
  | ret b => exact absurd (congrArg Prod.fst ran) (by simp)
  | ask q next ih =>
      rcases h : serve q s with ⟨e' | r, s₁⟩
      · rw [run_ask_error h] at ran
        cases ran
        exact ⟨q, s, h⟩
      · rw [run_ask_ok h] at ran
        exact ih r ran

section Eval

variable {answer : (q : Q) → Except ε (R q)}

@[simp] theorem value_ret (table : (q : Q) → R q) (a : α) :
    (Prog.ret a : Prog Q R α).value table = a := rfl

@[simp] theorem value_ask (table : (q : Q) → R q) (q : Q) (next : R q → Prog Q R α) :
    (Prog.ask q next).value table = (next (table q)).value table := rfl

theorem value_bind (table : (q : Q) → R q) (p : Prog Q R α) (f : α → Prog Q R β) :
    (p.bind f).value table = (f (p.value table)).value table := by
  induction p with
  | ret a => rfl
  | ask q next ih => exact ih (table q)

/-- A table without gaps gives every program its value. -/
theorem eval_eq_value (table : (q : Q) → R q) (p : Prog Q R α) :
    p.eval (fun q => (.ok (table q) : Except ε (R q))) = .ok (p.value table) := by
  induction p with
  | ret a => rfl
  | ask q next ih => exact ih (table q)

theorem asked_bind (table : (q : Q) → R q) (p : Prog Q R α) (f : α → Prog Q R β) :
    (p.bind f).asked table = p.asked table ++ (f (p.value table)).asked table := by
  induction p with
  | ret a => rfl
  | ask q next ih => exact congrArg (List.cons q) (ih (table q))

/-- The value depends on the answers to the queries asked only. -/
theorem value_congr {table table' : (q : Q) → R q} (p : Prog Q R α)
    (agree : ∀ q ∈ p.asked table, table q = table' q) : p.value table = p.value table' := by
  induction p with
  | ret a => rfl
  | ask q next ih =>
      have here : table q = table' q := agree q (.head _)
      rw [value_ask, value_ask, ← here]
      exact ih (table q) fun q' mem => agree q' (.tail _ mem)

theorem asked_congr {table table' : (q : Q) → R q} (p : Prog Q R α)
    (agree : ∀ q ∈ p.asked table, table q = table' q) : p.asked table = p.asked table' := by
  induction p with
  | ret a => rfl
  | ask q next ih =>
      have here : table q = table' q := agree q (.head _)
      rw [asked, asked, ← here]
      exact congrArg (q :: ·) (ih (table q) fun q' mem => agree q' (.tail _ mem))

/-- A server that remembers: `knows s q r` says that it holds the answer `r`.
After a successful run it knows the answer to every query asked, and the value
is that of a table which agrees with what it knows. -/
theorem run_ok_asked {serve : (q : Q) → σ → Except ε (R q) × σ} (knows : σ → (q : Q) → R q → Prop)
    (learns : ∀ {q s r s'}, serve q s = (.ok r, s') → knows s' q r)
    (keeps : ∀ {q s r s' q' r'}, serve q s = (.ok r, s') → knows s q' r' → knows s' q' r')
    {p : Prog Q R α} {s s' : σ} {a : α} (ran : p.run serve s = (.ok a, s'))
    {table : (q : Q) → R q} (agree : ∀ q r, knows s' q r → table q = r) :
    p.value table = a ∧ ∀ q ∈ p.asked table, knows s' q (table q) := by
  have kept : ∀ {p : Prog Q R α} {s : σ} {q r}, p.run serve s = (.ok a, s') → knows s q r →
      knows s' q r := by
    intro p
    induction p with
    | ret b =>
        intro s q r ran known
        obtain ⟨-, rfl⟩ := Prod.mk.inj ran
        exact known
    | ask q₀ next ih =>
        intro s q r ran known
        obtain ⟨e, -, failed⟩ | ⟨r₀, s₁, served, rest⟩ := run_ask_cases ran
        · cases failed
        · exact ih r₀ rest (keeps served known)
  induction p generalizing s with
  | ret b =>
      obtain ⟨same, -⟩ := Prod.mk.inj ran
      exact ⟨Except.ok.inj same, fun q mem => by cases mem⟩
  | ask q next ih =>
      obtain ⟨e, -, failed⟩ | ⟨r, s₁, served, rest⟩ := run_ask_cases ran
      · cases failed
      · have known := kept rest (learns served)
        have answer : table q = r := agree q r known
        rw [value_ask, asked, answer]
        obtain ⟨valued, later⟩ := ih r rest
        refine ⟨valued, fun q' mem => ?_⟩
        rcases List.mem_cons.mp mem with rfl | mem
        · rw [answer]
          exact known
        · exact later q' mem

end Eval

end Prog

end SorobanFork.Lib
