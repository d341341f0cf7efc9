import Mathlib.Data.List.Basic
import Mathlib.Data.List.Induction
import Mathlib.Logic.Function.Basic
import Mathlib.Order.Defs.PartialOrder
import SorobanFork.Lib.Prog

/-!
# Interleaved clients

Several clients share one server.  Each runs a `Prog` and asks its queries one
after another; the server answers one query at a time.  A schedule, a list of
clients, says whose query is answered next, so that the runs over all schedules
are all interleavings.

* `Clients.turn`, `Clients.run`: one query, and a whole schedule.
* `Clients.run_rel`: what every query preserves of the server, a schedule does.
* `Clients.run_congr`: servers that do the same where a schedule takes them take the
  clients through it alike.
* `Clients.run_stages`: each client relies on an assertion of its own, which the
  queries of the others leave true.
* `Clients.run_meets`: clients that each keep to an agreement with the server
  keep its invariant together, in every schedule.
* `Clients.meets_of_heard`: a client that keeps to an agreement ends as agreed if the
  replies to it were.
* `Clients.exists_turn`: a client that is about to ask and ends in a value had
  its turn, got a reply, and went on from it.  Applied once for each query, it
  takes the run of a client apart.
* `Clients.Maps.run`: what clients make of their values changes nothing else.
* `Clients.exists_moment_iff`: what a client makes of two values that it read one
  after the other.
-/

namespace SorobanFork.Lib

universe u v w x y

/-- Clients and the server they share.  A client whose query failed has ended
with the error. -/
structure Clients (κ : Type u) (Q : Type v) (R : Q → Type w) (ε σ : Type y) (α : Type x) :
    Type (max u v w x y) where
  progs : κ → Except ε (Prog Q R α)
  server : σ

namespace Clients

variable {κ : Type u} [DecidableEq κ] {Q : Type v} {R : Q → Type w} {ε σ : Type y} {α : Type x}
  (serve : (q : Q) → σ → Except ε (R q) × σ)

/-- The server answers the next query of a client; a client that has ended
does nothing. -/
def turn (k : κ) (c : Clients κ Q R ε σ α) : Clients κ Q R ε σ α :=
  match c.progs k with
  | .ok (.ask q next) =>
    { progs := Function.update c.progs k ((serve q c.server).1.map next)
      server := (serve q c.server).2 }
  | _ => c

/-- Answer the queries of the clients in the order of a schedule. -/
def run (schedule : List κ) (c : Clients κ Q R ε σ α) : Clients κ Q R ε σ α :=
  schedule.foldl (fun c k => turn serve k c) c

variable {c : Clients κ Q R ε σ α} {k j : κ}

@[simp] theorem run_nil (c : Clients κ Q R ε σ α) : run serve [] c = c := rfl

@[simp] theorem run_cons (k : κ) (schedule : List κ) (c : Clients κ Q R ε σ α) :
    run serve (k :: schedule) c = run serve schedule (turn serve k c) := rfl

theorem run_append (before after : List κ) (c : Clients κ Q R ε σ α) :
    run serve (before ++ after) c = run serve after (run serve before c) :=
  List.foldl_append

theorem turn_of_ask {q : Q} {next : R q → Prog Q R α} (asks : c.progs k = .ok (.ask q next)) :
    turn serve k c =
      { progs := Function.update c.progs k ((serve q c.server).1.map next)
        server := (serve q c.server).2 } := by
  rw [turn, asks]

theorem turn_of_ret {a : α} (ended : c.progs k = .ok (.ret a)) : turn serve k c = c := by
  rw [turn, ended]

theorem turn_of_error {e : ε} (failed : c.progs k = .error e) : turn serve k c = c := by
  rw [turn, failed]

/-- A turn leaves the other clients as they are. -/
theorem progs_turn_of_ne (other : j ≠ k) : (turn serve k c).progs j = c.progs j := by
  rcases at_k : c.progs k with e | p
  · rw [turn_of_error serve at_k]
  · cases p with
    | ret a => rw [turn_of_ret serve at_k]
    | ask q next =>
        rw [turn_of_ask serve at_k]
        exact Function.update_of_ne other _ _

/-- A client that a schedule does not name stays as it is. -/
theorem progs_run_of_not_mem {schedule : List κ} (absent : k ∉ schedule) :
    (run serve schedule c).progs k = c.progs k := by
  induction schedule generalizing c with
  | nil => rfl
  | cons j schedule ih =>
      obtain ⟨other, rest⟩ := List.ne_and_not_mem_of_not_mem_cons absent
      rw [run_cons, ih rest, progs_turn_of_ne serve other]

/-- A client that has failed stays so. -/
theorem progs_run_of_error (schedule : List κ) {e : ε} (failed : c.progs k = .error e) :
    (run serve schedule c).progs k = .error e := by
  induction schedule generalizing c with
  | nil => exact failed
  | cons j schedule ih =>
      rw [run_cons]
      apply ih
      by_cases same : k = j
      · rw [← same, turn_of_error serve failed, failed]
      · rw [progs_turn_of_ne serve same, failed]

/-- A client that has ended in a value stays so. -/
theorem progs_run_of_ret (schedule : List κ) {a : α} (ended : c.progs k = .ok (.ret a)) :
    (run serve schedule c).progs k = .ok (.ret a) := by
  induction schedule generalizing c with
  | nil => exact ended
  | cons j schedule ih =>
      rw [run_cons]
      apply ih
      by_cases same : k = j
      · rw [← same, turn_of_ret serve ended, ended]
      · rw [progs_turn_of_ne serve same, ended]

/-- What every query preserves of the server, a schedule preserves. -/
theorem run_rel (rel : σ → σ → Prop) (refl : ∀ s, rel s s)
    (trans : ∀ s₁ s₂ s₃, rel s₁ s₂ → rel s₂ s₃ → rel s₁ s₃)
    (served : ∀ q s, rel s (serve q s).2) (schedule : List κ) (c : Clients κ Q R ε σ α) :
    rel c.server (run serve schedule c).server := by
  induction schedule generalizing c with
  | nil => exact refl _
  | cons k schedule ih =>
      have first : rel c.server (turn serve k c).server := by
        rcases at_k : c.progs k with e | p
        · rw [turn_of_error serve at_k]
          exact refl _
        · cases p with
          | ret a =>
              rw [turn_of_ret serve at_k]
              exact refl _
          | ask q next =>
              rw [turn_of_ask serve at_k]
              exact served q c.server
      exact trans _ _ _ first (ih (turn serve k c))

/-- Two servers that do the same in every state satisfying `inv`, which they keep,
take the clients through a schedule alike. -/
theorem run_congr {serve' : (q : Q) → σ → Except ε (R q) × σ} (inv : σ → Prop)
    (same : ∀ q s, inv s → serve' q s = serve q s) (kept : ∀ q s, inv s → inv (serve q s).2)
    (schedule : List κ) {c : Clients κ Q R ε σ α} (holds : inv c.server) :
    run serve' schedule c = run serve schedule c := by
  induction schedule generalizing c with
  | nil => rfl
  | cons k schedule ih =>
      have turned : turn serve' k c = turn serve k c := by
        rcases at_k : c.progs k with e | p
        · rw [turn_of_error serve' at_k, turn_of_error serve at_k]
        · cases p with
          | ret a => rw [turn_of_ret serve' at_k, turn_of_ret serve at_k]
          | ask q next => rw [turn_of_ask serve' at_k, turn_of_ask serve at_k, same q _ holds]
      rw [run_cons, run_cons, turned]
      exact ih (run_rel serve (fun s s' => inv s → inv s') (fun _ => id)
        (fun _ _ _ first second => second ∘ first) (fun q s => kept q s) [k] c holds)

/-- **Own assertions.**  `stage k p s` is what client `k` relies on about the
server when it is to go on as `p`.  If each query, asked in its stage, keeps
`inv` and the stages of the other clients, and leads its own client to a next
stage, then after every schedule `inv` holds and each client is in a stage. -/
theorem run_stages (inv : σ → Prop) (stage : κ → Prog Q R α → σ → Prop)
    (own : ∀ {k q next s out s'}, inv s → stage k (.ask q next) s → serve q s = (out, s') →
      inv s' ∧ (∀ r, out = .ok r → stage k (next r) s') ∧
        ∀ j p, j ≠ k → stage j p s → stage j p s')
    (schedule : List κ) (start : inv c.server)
    (stages : ∀ k p, c.progs k = .ok p → stage k p c.server) :
    inv (run serve schedule c).server ∧
      ∀ k p, (run serve schedule c).progs k = .ok p → stage k p (run serve schedule c).server := by
  induction schedule generalizing c with
  | nil => exact ⟨start, stages⟩
  | cons k schedule ih =>
      rw [run_cons]
      rcases at_k : c.progs k with e | p
      · rw [turn_of_error serve at_k]
        exact ih start stages
      · cases p with
        | ret a =>
            rw [turn_of_ret serve at_k]
            exact ih start stages
        | ask q next =>
            obtain ⟨kept, later, others⟩ := own start (stages k _ at_k) rfl
            rw [turn_of_ask serve at_k]
            refine ih kept fun j p at_j => ?_
            change Function.update c.progs k ((serve q c.server).1.map next) j = .ok p at at_j
            by_cases same : j = k
            · subst same
              rw [Function.update_self] at at_j
              rcases answered : (serve q c.server).1 with e | r
              · rw [answered] at at_j
                cases at_j
              · rw [answered] at at_j
                cases at_j
                exact later r answered
            · rw [Function.update_of_ne same] at at_j
              exact others j p same (stages j p at_j)

/-- **Keeping an agreement.**  If the server, asked an allowed query, keeps `inv`
and gives an allowed reply, and the clients ask only allowed queries, then `inv`
holds after every schedule, and the clients still keep to the agreement. -/
theorem run_meets {asks : Q → Prop} {gives : (q : Q) → R q → Prop} {post : κ → α → Prop}
    (inv : σ → Prop)
    (served : ∀ {q s out s'}, inv s → asks q → serve q s = (out, s') →
      inv s' ∧ ∀ r, out = .ok r → gives q r)
    (schedule : List κ) (start : inv c.server)
    (meets : ∀ k p, c.progs k = .ok p → p.Meets asks gives (post k)) :
    inv (run serve schedule c).server ∧
      ∀ k p, (run serve schedule c).progs k = .ok p → p.Meets asks gives (post k) := by
  refine run_stages serve inv (fun k p _ => p.Meets asks gives (post k)) ?_ schedule start meets
  rintro k q next s out s' holds ⟨allowed, later⟩ answered
  obtain ⟨kept, replied⟩ := served holds allowed answered
  exact ⟨kept, fun r ok => later r (replied r ok), fun _ _ _ meets => meets⟩

/-- **What a client hears.**  If a client keeps to an agreement when the server does,
and the replies that it gets in its turns of a schedule are allowed, then it ends in
an allowed value. -/
theorem meets_of_heard {gives : (q : Q) → R q → Prop} {post : α → Prop} {schedule : List κ}
    {p : Prog Q R α} (at_k : c.progs k = .ok p) (meets : p.Meets (fun _ => True) gives post)
    (heard : ∀ before, before ++ [k] <+: schedule → ∀ q r,
      serve q (run serve before c).server = (.ok r, (run serve (before ++ [k]) c).server) →
        gives q r) {a : α} (ended : (run serve schedule c).progs k = .ok (.ret a)) : post a := by
  induction schedule generalizing c p with
  | nil =>
      rw [run_nil, at_k] at ended
      cases ended
      exact meets
  | cons j schedule ih =>
      have later {p : Prog Q R α} (at_k : (turn serve j c).progs k = .ok p)
          (meets : p.Meets (fun _ => True) gives post) : post a :=
        ih at_k meets (fun before part =>
          heard (j :: before) (List.cons_prefix_cons.mpr ⟨rfl, part⟩))
          ended
      by_cases own : k = j
      · subst own
        cases p with
        | ret a =>
            rw [turn_of_ret serve at_k] at later
            exact later at_k meets
        | ask q next =>
            have turned := turn_of_ask serve at_k
            have progress := congrArg (fun c => c.progs k) turned
            simp only [Function.update_self] at progress
            rcases served : serve q c.server with ⟨e | r, s⟩
            · rw [served] at progress
              rw [run_cons, progs_run_of_error serve schedule progress] at ended
              cases ended
            · rw [served] at progress turned
              have allowed := heard [] (List.cons_prefix_cons.mpr ⟨rfl, List.nil_prefix⟩) q r
                (by rw [run_nil, List.nil_append, run_cons, run_nil, turned, served])
              exact later progress (meets.2 r allowed)
      · exact later (by rw [progs_turn_of_ne serve own, at_k]) meets

/-- **Taking a client apart.**  If a client is about to ask `q`, and has ended in
a value after a schedule, then the schedule reaches its turn, `q` is answered,
and the client goes on from the reply. -/
theorem exists_turn {q : Q} {next : R q → Prog Q R α} {schedule : List κ} {a : α}
    (asks : c.progs k = .ok (.ask q next))
    (ended : (run serve schedule c).progs k = .ok (.ret a)) :
    ∃ before after r, schedule = before ++ k :: after ∧ k ∉ before ∧
      serve q (run serve before c).server = (.ok r, (run serve (before ++ [k]) c).server) ∧
      (run serve (before ++ [k]) c).progs k = .ok (next r) ∧
      (run serve after (run serve (before ++ [k]) c)).progs k = .ok (.ret a) := by
  have mem : k ∈ schedule := by
    by_contra absent
    rw [progs_run_of_not_mem serve absent, asks] at ended
    cases ended
  obtain ⟨before, after, rfl, notBefore⟩ := List.eq_append_cons_of_mem mem
  have waiting : (run serve before c).progs k = .ok (.ask q next) := by
    rw [progs_run_of_not_mem serve notBefore, asks]
  have atTurn : run serve (before ++ [k]) c = turn serve k (run serve before c) := by
    rw [run_append, run_cons, run_nil]
  rw [run_append, run_cons, ← atTurn] at ended
  rw [turn_of_ask serve waiting] at atTurn
  have progress := congrArg (fun c => c.progs k) atTurn
  simp only [Function.update_self] at progress
  rcases served : serve q (run serve before c).server with ⟨e | r, s⟩
  · rw [served] at progress
    rw [progs_run_of_error serve after progress] at ended
    cases ended
  · rw [served] at progress
    refine ⟨before, after, r, rfl, notBefore, ?_, progress, ended⟩
    rw [atTurn, served]

/-! ### What clients make of their values -/

section Maps

universe z

variable {β : Type z} {c' : Clients κ Q R ε σ β} {f : κ → α → β} {good : κ → Prop}

/-- The good clients of `c'` are those of `c`, but for what they make of their
values. -/
structure Maps (f : κ → α → β) (good : κ → Prop) (c : Clients κ Q R ε σ α)
    (c' : Clients κ Q R ε σ β) : Prop where
  server : c'.server = c.server
  progs : ∀ k, good k → c'.progs k = (c.progs k).map fun p => p.bind fun a => .ret (f k a)

theorem Maps.turn (maps : Maps f good c c') (named : good k) :
    Maps f good (turn serve k c) (turn serve k c') := by
  have same := maps.progs k named
  rcases at_k : c.progs k with e | p
  · rw [at_k, Except.map] at same
    rw [turn_of_error serve at_k, turn_of_error serve same]
    exact maps
  cases p with
  | ret a =>
      rw [at_k, Except.map, Prog.ret_bind] at same
      rw [turn_of_ret serve at_k, turn_of_ret serve same]
      exact maps
  | ask q next =>
      rw [at_k, Except.map, Prog.ask_bind] at same
      rw [turn_of_ask serve at_k, turn_of_ask serve same, maps.server]
      refine ⟨rfl, fun j good => ?_⟩
      change Function.update c'.progs k _ j = (Function.update c.progs k _ j).map _
      by_cases own : j = k
      · subst own
        rw [Function.update_self, Function.update_self]
        cases (serve q c.server).1 <;> rfl
      · rw [Function.update_of_ne own, Function.update_of_ne own]
        exact maps.progs j good

/-- A schedule of good clients takes the one system where it takes the other. -/
theorem Maps.run (maps : Maps f good c c') {schedule : List κ}
    (named : ∀ k ∈ schedule, good k) :
    Maps f good (run serve schedule c) (run serve schedule c') := by
  induction schedule generalizing c c' with
  | nil => exact maps
  | cons k schedule ih =>
      rw [run_cons, run_cons]
      exact ih (maps.turn serve (named k List.mem_cons_self)) fun j mem =>
        named j (List.mem_cons_of_mem k mem)

end Maps

/-! ### Two readings

A client that reads `f` before a schedule and `g` after it gets a pair that the
server may never have shown at once. -/

section TwoReadings

variable {φ γ : Type y} {f : σ → φ} {g : σ → γ} {schedule : List κ}

/-- No turn of the schedule that moves `g` leaves `f` elsewhere than at the start. -/
def Untorn (f : σ → φ) (g : σ → γ) (schedule : List κ) (c : Clients κ Q R ε σ α) : Prop :=
  ∀ before k, before ++ [k] <+: schedule →
    g (run serve (before ++ [k]) c).server ≠ g (run serve before c).server →
      f (run serve (before ++ [k]) c).server = f c.server

/-- The server shows both values of an untorn pair when `g` has just moved last. -/
theorem exists_moment_of_untorn (untorn : Untorn serve f g schedule c) :
    ∃ moment, moment <+: schedule ∧ f (run serve moment c).server = f c.server ∧
      g (run serve moment c).server = g (run serve schedule c).server := by
  induction schedule using List.reverseRecOn with
  | nil => exact ⟨[], List.prefix_rfl, rfl, rfl⟩
  | append_singleton schedule k ih =>
      by_cases still : g (run serve (schedule ++ [k]) c).server = g (run serve schedule c).server
      · have earlier : Untorn serve f g schedule c := fun before j part =>
          untorn before j (part.trans (List.prefix_append schedule [k]))
        obtain ⟨moment, part, same, last⟩ := ih earlier
        exact ⟨moment, part.trans (List.prefix_append schedule [k]), same, last.trans still.symm⟩
      · exact ⟨schedule ++ [k], List.prefix_rfl,
          untorn schedule k List.prefix_rfl still, rfl⟩

/-- A value that no query lowers only grows along a run. -/
theorem run_le_of_prefix [PartialOrder φ] (climbs : ∀ q s, f s ≤ f (serve q s).2)
    {moment later : List κ} (part : moment <+: later) :
    f (run serve moment c).server ≤ f (run serve later c).server := by
  obtain ⟨rest, rfl⟩ := part
  rw [run_append]
  exact run_rel serve (fun s s' => f s ≤ f s') (fun _ => le_rfl) (fun _ _ _ => le_trans) climbs rest
    (run serve moment c)

/-- A turn that moves `g` comes before any moment at which `g` has its last value. -/
theorem prefix_of_moved [PartialOrder γ] (climbs : ∀ q s, g s ≤ g (serve q s).2)
    {moment before : List κ} (part : moment <+: schedule) (turned : before ++ [k] <+: schedule)
    (last : g (run serve moment c).server = g (run serve schedule c).server)
    (moved : g (run serve (before ++ [k]) c).server ≠ g (run serve before c).server) :
    before ++ [k] <+: moment := by
  rcases List.prefix_or_prefix_of_prefix turned part with earlier | later
  · exact earlier
  rcases List.prefix_concat_iff.mp later with rfl | within
  · exact List.prefix_rfl
  · -- the moment is before the turn, so `g` would move after its last value
    have low := run_le_of_prefix serve climbs (c := c) within
    have high := run_le_of_prefix serve climbs (c := c) turned
    have step := run_le_of_prefix serve climbs (c := c) (List.prefix_append before [k])
    rw [last] at low
    exact absurd (le_antisymm (le_trans high low) step) moved

/-- **Two readings.**  If no query lowers `f` or `g`, the server shows what a
client read of `f` before a schedule and of `g` after it at one moment in between
exactly when the pair is untorn. -/
theorem exists_moment_iff [PartialOrder φ] [PartialOrder γ]
    (climbs_f : ∀ q s, f s ≤ f (serve q s).2) (climbs_g : ∀ q s, g s ≤ g (serve q s).2) :
    (∃ moment, moment <+: schedule ∧ f (run serve moment c).server = f c.server ∧
      g (run serve moment c).server = g (run serve schedule c).server) ↔
    Untorn serve f g schedule c := by
  constructor
  · rintro ⟨moment, part, same, last⟩ before k turned moved
    have earlier := prefix_of_moved serve climbs_g part turned last moved
    have low := run_le_of_prefix serve climbs_f (c := c) (List.nil_prefix (l := before ++ [k]))
    have high := run_le_of_prefix serve climbs_f (c := c) earlier
    rw [same] at high
    exact le_antisymm high low
  · exact exists_moment_of_untorn serve

/-- A pair is untorn if `g` stays as it is. -/
theorem untorn_of_still [PartialOrder γ] (climbs : ∀ q s, g s ≤ g (serve q s).2)
    (still : g c.server = g (run serve schedule c).server) : Untorn serve f g schedule c := by
  intro before k turned moved
  have atStart := prefix_of_moved serve climbs (List.nil_prefix) turned still moved
  exact absurd (List.prefix_nil.mp atStart) (by simp)

end TwoReadings

end Clients

end SorobanFork.Lib
