/-!
# Forests of calls and their logs

A call enters, makes calls of its own one after another, and leaves, or never
comes back.  `Forest α β` is the record of such calls; `Forest.marks` is the log
of its enters and leaves in the order of time.  `Forest.parse` rebuilds a forest
from a log with a stack, and takes every leave for that of the innermost open
call.

* `Forest.parse_marks`: the log of a forest is parsed back to it if all calls
  that never came back are open to the end (`Forest.OpenLast`);
* `Forest.openLast_parse`: the parse of any log is such a forest, so no other
  forest is parsed back;
* `Forest.walk_parse`: a walk over the parse of any log meets its enters, at the
  depths they had, and the leaves that met an open call, in the order of the log.
-/

namespace SorobanFork.Lib

universe u v w

/-- Calls in a row, each with what it left with, if it did, and its own calls. -/
inductive Forest (α : Type u) (β : Type v) : Type (max u v)
  | nil
  | cons (enter : α) (leave : Option β) (calls rest : Forest α β)
deriving DecidableEq

/-- An entry of a log. -/
inductive Mark (α : Type u) (β : Type v) : Type (max u v)
  | enter (a : α)
  | leave (b : β)
deriving DecidableEq

namespace Forest

variable {α : Type u} {β : Type v}

def append : Forest α β → Forest α β → Forest α β
  | nil, g => g
  | cons a leave calls rest, g => cons a leave calls (rest.append g)

instance : Append (Forest α β) := ⟨append⟩

@[simp] theorem nil_append (f : Forest α β) : nil ++ f = f := rfl

@[simp] theorem cons_append (a : α) (leave : Option β) (calls rest f : Forest α β) :
    cons a leave calls rest ++ f = cons a leave calls (rest ++ f) := rfl

@[simp] theorem append_nil (f : Forest α β) : f ++ nil = f := by
  induction f with
  | nil => rfl
  | cons a leave calls rest _ ih => rw [cons_append, ih]

theorem append_assoc (f g h : Forest α β) : f ++ g ++ h = f ++ (g ++ h) := by
  induction f with
  | nil => rfl
  | cons a leave calls rest _ ih => rw [cons_append, cons_append, cons_append, ih]

/-- The log of a forest. -/
def marks : Forest α β → List (Mark α β)
  | nil => []
  | cons a leave calls rest =>
    .enter a :: (calls.marks ++ ((leave.map Mark.leave).toList ++ rest.marks))

/-- Every call came back. -/
def Finished : Forest α β → Prop
  | nil => True
  | cons _ leave calls rest => leave.isSome ∧ calls.Finished ∧ rest.Finished

/-- Every call that did not come back is the last one of its caller, which did
not come back either. -/
def OpenLast : Forest α β → Prop
  | nil => True
  | cons _ (some _) calls rest => calls.Finished ∧ rest.OpenLast
  | cons _ none calls rest => calls.OpenLast ∧ rest = nil

theorem Finished.append {f g : Forest α β} (first : f.Finished) (second : g.Finished) :
    (f ++ g).Finished := by
  induction f with
  | nil => exact second
  | cons a leave calls rest _ ih =>
      obtain ⟨left, callsFinished, restFinished⟩ := first
      exact ⟨left, callsFinished, ih restFinished⟩

theorem OpenLast.append {f g : Forest α β} (first : f.Finished) (second : g.OpenLast) :
    (f ++ g).OpenLast := by
  induction f with
  | nil => exact second
  | cons a leave calls rest _ ih =>
      obtain ⟨left, callsFinished, restFinished⟩ := first
      cases leave with
      | none => cases left
      | some b => exact ⟨callsFinished, ih restFinished⟩

/-! ### Parsing a log -/

/-- A parse under way: the open calls, innermost first, each with its finished
calls, and the finished calls at the root. -/
structure Parse (α : Type u) (β : Type v) : Type (max u v) where
  stack : List (α × Forest α β)
  roots : Forest α β

namespace Parse

/-- Add calls to the innermost open call, or at the root. -/
def attach (s : Parse α β) (f : Forest α β) : Parse α β :=
  match s.stack with
  | [] => ⟨[], s.roots ++ f⟩
  | (a, calls) :: stack => ⟨(a, calls ++ f) :: stack, s.roots⟩

/-- Read one mark; a leave with no open call is skipped. -/
def step (s : Parse α β) : Mark α β → Parse α β
  | .enter a => ⟨(a, nil) :: s.stack, s.roots⟩
  | .leave b =>
    match s.stack with
    | [] => s
    | (a, calls) :: stack => attach ⟨stack, s.roots⟩ (cons a (some b) calls nil)

/-- Close the open calls; `inner` is what came of the one closed last. -/
def closeAll : List (α × Forest α β) → Forest α β → Forest α β → Forest α β
  | [], roots, inner => roots ++ inner
  | (a, calls) :: stack, roots, inner => closeAll stack roots (cons a none (calls ++ inner) nil)

/-- At the end of the log the open calls never came back. -/
def close (s : Parse α β) : Forest α β := closeAll s.stack s.roots nil

theorem attach_nil (s : Parse α β) : s.attach nil = s := by
  obtain ⟨stack, roots⟩ := s
  cases stack with
  | nil => simp only [attach, append_nil]
  | cons top stack => simp only [attach, append_nil]

theorem attach_append (s : Parse α β) (f g : Forest α β) :
    s.attach (f ++ g) = (s.attach f).attach g := by
  obtain ⟨stack, roots⟩ := s
  cases stack with
  | nil => simp only [attach, append_assoc]
  | cons top stack => simp only [attach, append_assoc]

theorem close_attach (s : Parse α β) (f : Forest α β) :
    (s.attach f).close = closeAll s.stack s.roots f := by
  obtain ⟨stack, roots⟩ := s
  cases stack with
  | nil => simp only [attach, close, closeAll, append_nil]
  | cons top stack => simp only [attach, close, closeAll, append_nil]

/-- No call that was added to the parse is open. -/
structure Settled (s : Parse α β) : Prop where
  stack : ∀ top ∈ s.stack, top.2.Finished
  roots : s.roots.Finished

theorem Settled.attach {s : Parse α β} (settled : s.Settled) {f : Forest α β}
    (finished : f.Finished) : (s.attach f).Settled := by
  obtain ⟨stack, roots⟩ := s
  cases stack with
  | nil => exact ⟨settled.stack, settled.roots.append finished⟩
  | cons top stack =>
      obtain ⟨topFinished, below⟩ := List.forall_mem_cons.mp settled.stack
      exact ⟨List.forall_mem_cons.mpr ⟨topFinished.append finished, below⟩, settled.roots⟩

theorem Settled.step {s : Parse α β} (settled : s.Settled) (m : Mark α β) :
    (s.step m).Settled := by
  obtain ⟨stack, roots⟩ := s
  cases m with
  | enter a => exact ⟨List.forall_mem_cons.mpr ⟨trivial, settled.stack⟩, settled.roots⟩
  | leave b =>
      cases stack with
      | nil => exact settled
      | cons top stack =>
          obtain ⟨topFinished, below⟩ := List.forall_mem_cons.mp settled.stack
          have left : (cons top.1 (some b) top.2 nil).Finished := ⟨rfl, topFinished, trivial⟩
          have rest : Settled ⟨stack, roots⟩ := ⟨below, settled.roots⟩
          exact rest.attach left

theorem Settled.foldl {s : Parse α β} (settled : s.Settled) (ms : List (Mark α β)) :
    (ms.foldl Parse.step s).Settled := by
  induction ms generalizing s with
  | nil => exact settled
  | cons m ms ih => exact ih (settled.step m)

theorem openLast_closeAll {stack : List (α × Forest α β)} {roots inner : Forest α β}
    (finished : ∀ top ∈ stack, top.2.Finished) (rootsFinished : roots.Finished)
    (openLast : inner.OpenLast) : (closeAll stack roots inner).OpenLast := by
  induction stack generalizing inner with
  | nil => exact .append rootsFinished openLast
  | cons top stack ih =>
      obtain ⟨topFinished, below⟩ := List.forall_mem_cons.mp finished
      exact ih below ⟨.append topFinished openLast, rfl⟩

end Parse

/-- The forest a log shows. -/
def parse (ms : List (Mark α β)) : Forest α β := (ms.foldl Parse.step ⟨[], nil⟩).close

/-- The log of finished calls adds these calls. -/
theorem foldl_marks_of_finished {f : Forest α β} (finished : f.Finished) (s : Parse α β) :
    f.marks.foldl Parse.step s = s.attach f := by
  induction f generalizing s with
  | nil => exact s.attach_nil.symm
  | cons a leave calls rest ihCalls ihRest =>
      obtain ⟨left, callsFinished, restFinished⟩ := finished
      obtain ⟨b, rfl⟩ := Option.isSome_iff_exists.mp left
      have inside : calls.marks.foldl Parse.step (s.step (.enter a)) =
          ⟨(a, calls) :: s.stack, s.roots⟩ := ihCalls callsFinished _
      have outside : Parse.step ⟨(a, calls) :: s.stack, s.roots⟩ (.leave b) =
          s.attach (cons a (some b) calls nil) := rfl
      have split : cons a (some b) calls rest = cons a (some b) calls nil ++ rest := rfl
      rw [marks, List.foldl_cons, List.foldl_append, inside, Option.map_some, Option.toList_some,
        List.singleton_append, List.foldl_cons, outside, ihRest restFinished, split,
        Parse.attach_append]

theorem close_foldl_marks {f : Forest α β} (openLast : f.OpenLast) (s : Parse α β) :
    (f.marks.foldl Parse.step s).close = (s.attach f).close := by
  induction f generalizing s with
  | nil => rw [s.attach_nil]; rfl
  | cons a leave calls rest ihCalls ihRest =>
      cases leave with
      | some b =>
          obtain ⟨callsFinished, restOpen⟩ := openLast
          have finished : (cons a (some b) calls nil).Finished := ⟨rfl, callsFinished, trivial⟩
          have first := foldl_marks_of_finished finished s
          have split : cons a (some b) calls rest = cons a (some b) calls nil ++ rest := rfl
          have splitMarks : (cons a (some b) calls rest).marks =
              (cons a (some b) calls nil).marks ++ rest.marks := by
            simp [marks]
          rw [splitMarks, List.foldl_append, first, ihRest restOpen, split, Parse.attach_append]
      | none =>
          -- the call stays open, and is closed together with those around it
          obtain ⟨callsOpen, rfl⟩ := openLast
          have log : (cons a (none : Option β) calls nil).marks = .enter a :: calls.marks := by
            simp [marks]
          rw [log, List.foldl_cons, ihCalls callsOpen, Parse.close_attach, Parse.close_attach]
          rfl

/-- **Round trip.** -/
theorem parse_marks {f : Forest α β} (openLast : f.OpenLast) : parse f.marks = f := by
  rw [parse, close_foldl_marks openLast, Parse.close_attach]
  rfl

/-! ### Walking a forest -/

section Walk

variable {γ : Type w} (enter : Nat → α → List γ) (leave : β → List γ)

/-- The calls in preorder, each with its depth. -/
def nodes (depth : Nat) : Forest α β → List (Nat × α × Option β)
  | nil => []
  | cons a left calls rest => (depth, a, left) :: (calls.nodes (depth + 1) ++ rest.nodes depth)

/-- What the calls give as they are entered, at their depths, and as they are left. -/
def walk (depth : Nat) : Forest α β → List γ
  | nil => []
  | cons a left calls rest =>
    enter depth a ++ (calls.walk (depth + 1) ++ (left.toList.flatMap leave ++ rest.walk depth))

/-- A walk that stops only to enter is in preorder. -/
theorem walk_enter (depth : Nat) (f : Forest α β) :
    f.walk enter (fun _ => []) depth =
      (f.nodes depth).flatMap fun node => enter node.1 node.2.1 := by
  induction f generalizing depth with
  | nil => rfl
  | cons a left calls rest ihCalls ihRest =>
      rw [walk, ihCalls, ihRest, nodes, List.flatMap_cons, List.flatMap_append,
        List.flatMap_eq_nil_iff.mpr fun _ _ => rfl, List.nil_append]

theorem mem_walk_iff {c : γ} (depth : Nat) (f : Forest α β) :
    c ∈ f.walk enter leave depth ↔ ∃ node ∈ f.nodes depth,
      c ∈ enter node.1 node.2.1 ∨ c ∈ node.2.2.toList.flatMap leave := by
  induction f generalizing depth with
  | nil => simp [walk, nodes]
  | cons a left calls rest ihCalls ihRest =>
      rw [walk, List.mem_append, List.mem_append, List.mem_append, ihCalls, ihRest, nodes]
      simp only [List.mem_cons, List.mem_append, or_and_right, exists_or, exists_eq_left, or_assoc]
      rw [or_left_comm (b := c ∈ left.toList.flatMap leave)]

theorem walk_append (depth : Nat) (f g : Forest α β) :
    (f ++ g).walk enter leave depth = f.walk enter leave depth ++ g.walk enter leave depth := by
  induction f with
  | nil => rfl
  | cons a left calls rest _ ih => simp only [cons_append, walk, ih, List.append_assoc]

end Walk

end Forest

/-- What a log gives as calls are entered, with the number of calls open before,
and as they are left; `n` calls are open at the start. -/
def Mark.walk {α : Type u} {β : Type v} {γ : Type w} (enter : Nat → α → List γ)
    (leave : β → List γ) : Nat → List (Mark α β) → List γ
  | _, [] => []
  | n, .enter a :: ms => enter n a ++ walk enter leave (n + 1) ms
  | 0, .leave _ :: ms => walk enter leave 0 ms
  | n + 1, .leave b :: ms => leave b ++ walk enter leave n ms

namespace Forest

variable {α : Type u} {β : Type v} {γ : Type w} (enter : Nat → α → List γ) (leave : β → List γ)

namespace Parse

/-- The walk so far. -/
def walk : List (α × Forest α β) → Forest α β → List γ
  | [], roots => roots.walk enter leave 0
  | (a, calls) :: stack, roots =>
    walk stack roots ++ (enter stack.length a ++ calls.walk enter leave (stack.length + 1))

theorem length_attach (s : Parse α β) (f : Forest α β) :
    (s.attach f).stack.length = s.stack.length := by
  obtain ⟨stack, roots⟩ := s
  cases stack with
  | nil => rfl
  | cons top stack => rfl

/-- A leave closes a call, if one is open. -/
theorem length_step_leave (s : Parse α β) (b : β) :
    (s.step (.leave b)).stack.length = s.stack.length - 1 := by
  obtain ⟨stack, roots⟩ := s
  cases stack with
  | nil => rfl
  | cons top stack => exact length_attach ⟨stack, roots⟩ _

theorem walk_attach (s : Parse α β) (f : Forest α β) :
    walk enter leave (s.attach f).stack (s.attach f).roots =
      walk enter leave s.stack s.roots ++ f.walk enter leave s.stack.length := by
  obtain ⟨stack, roots⟩ := s
  cases stack with
  | nil => exact walk_append enter leave 0 roots f
  | cons top stack =>
      simp only [attach, walk, walk_append, List.append_assoc, List.length_cons]

/-- Reading a log walks on along it. -/
theorem walk_foldl (ms : List (Mark α β)) (s : Parse α β) :
    walk enter leave (ms.foldl step s).stack (ms.foldl step s).roots =
      walk enter leave s.stack s.roots ++ Mark.walk enter leave s.stack.length ms := by
  induction ms generalizing s with
  | nil => rw [List.foldl_nil, Mark.walk, List.append_nil]
  | cons m ms ih =>
      rw [List.foldl_cons, ih]
      obtain ⟨stack, roots⟩ := s
      cases m with
      | enter a =>
          simp only [step, walk, Mark.walk, Forest.walk, List.length_cons, List.append_assoc,
            List.append_nil]
      | leave b =>
          cases stack with
          | nil => rfl
          | cons top stack =>
              have closed : step ⟨top :: stack, roots⟩ (.leave b) =
                  attach ⟨stack, roots⟩ (cons top.1 (some b) top.2 nil) := rfl
              rw [closed, walk_attach, length_attach]
              simp only [walk, Mark.walk, Forest.walk, List.length_cons, List.append_nil,
                Option.toList_some, List.flatMap_singleton, List.append_assoc]

/-- Closing the open calls adds nothing. -/
theorem walk_closeAll (stack : List (α × Forest α β)) (roots inner : Forest α β) :
    (closeAll stack roots inner).walk enter leave 0 =
      walk enter leave stack roots ++ inner.walk enter leave stack.length := by
  induction stack generalizing inner with
  | nil => exact walk_append enter leave 0 roots inner
  | cons top stack ih =>
      rw [closeAll, ih]
      simp only [walk, Forest.walk, walk_append, Option.toList_none, List.flatMap_nil,
        List.append_nil, List.append_assoc, List.length_cons]

end Parse

/-- **Nothing is lost**, whatever the log: a walk over its parse is a walk along
the log, which skips the leaves that meet no open call. -/
theorem walk_parse (ms : List (Mark α β)) :
    (parse ms).walk enter leave 0 = Mark.walk enter leave 0 ms := by
  rw [parse, Parse.close, Parse.walk_closeAll, Parse.walk_foldl]
  simp only [Parse.walk, walk, List.nil_append, List.append_nil, List.length_nil]

/-- **What a parse looks like**, for any log: the calls that never came back are
the last ones. -/
theorem openLast_parse (ms : List (Mark α β)) : (parse ms : Forest α β).OpenLast := by
  have start : Parse.Settled (⟨[], nil⟩ : Parse α β) := ⟨nofun, trivial⟩
  have settled := start.foldl ms
  exact Parse.openLast_closeAll settled.stack settled.roots trivial

end Forest

end SorobanFork.Lib
