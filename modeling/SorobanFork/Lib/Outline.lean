import Mathlib.Algebra.GroupWithZero.Nat

/-!
# Outlines

An `Outline` is an ordered forest of labelled nodes.  It is drawn with a line for
each node, in depth-first order and indented by the node's depth, and it can be
read back from the lines (`Outline.read_nodes`, `Outline.read_measure_drawn`), if no
label has a line break in it (`Outline.length_lines_drawn_iff`).

A text is a list of characters with a `sep` after each line; it has the lines it was
made of if and only if no line has a `sep` in it (`lines_unlines`,
`length_lines_unlines_iff`).
-/

namespace SorobanFork.Lib

universe u

variable {α : Type u}

/-! ## Lines -/

section Lines

variable {sep : α}

/-- The text of some lines. -/
def unlines (sep : α) (ls : List (List α)) : List α := ls.flatMap (· ++ [sep])

theorem unlines_cons (l : List α) (ls : List (List α)) :
    unlines sep (l :: ls) = l ++ sep :: unlines sep ls := by
  rw [unlines, List.flatMap_cons, List.append_assoc]
  rfl

theorem unlines_append (ls ls' : List (List α)) :
    unlines sep (ls ++ ls') = unlines sep ls ++ unlines sep ls' :=
  List.flatMap_append

variable [DecidableEq α]

/-- The lines of a text that ends each of them with `sep`. -/
def lines (sep : α) (text : List α) : List (List α) := (text.splitOn sep).dropLast

/-- There are as many lines as there are ends of lines. -/
theorem length_lines (text : List α) : (lines sep text).length = text.count sep := by
  have pieces : (text.splitOn sep).length = text.count sep + 1 := by
    induction text with
    | nil => rfl
    | cons a text ih =>
        rw [List.splitOn_cons_eq_if_modifyHead, List.count_cons]
        split
        · rw [List.length_cons, ih]
        · rw [List.length_modifyHead, ih, Nat.add_zero]
  rw [lines, List.length_dropLast, pieces, Nat.add_sub_cancel]

theorem lines_unlines {ls : List (List α)} (plain : ∀ l ∈ ls, sep ∉ l) :
    lines sep (unlines sep ls) = ls := by
  induction ls with
  | nil => rfl
  | cons l ls ih =>
      obtain ⟨first, rest⟩ := List.forall_mem_cons.mp plain
      rw [unlines_cons, lines, List.splitOn_append_cons_self_of_not_mem first,
        List.dropLast_cons_of_ne_nil (List.splitOn_ne_nil sep _), ← lines, ih rest]

theorem count_unlines (ls : List (List α)) :
    (unlines sep ls).count sep = ls.length + (ls.map (·.count sep)).sum := by
  induction ls with
  | nil => rfl
  | cons l ls ih =>
      rw [unlines_cons, List.count_append, List.count_cons_self, ih, List.length_cons,
        List.map_cons, List.sum_cons]
      omega

/-- A `sep` inside a line makes a line too many. -/
theorem length_lines_unlines_iff {ls : List (List α)} :
    (lines sep (unlines sep ls)).length = ls.length ↔ ∀ l ∈ ls, sep ∉ l := by
  rw [length_lines, count_unlines, Nat.add_eq_left,
    List.sum_eq_zero_iff_forall_eq_nat, List.forall_mem_map]
  exact forall₂_congr fun l _ => List.count_eq_zero

end Lines

/-! ## Trees -/

/-- An ordered forest: a first node, the nodes inside it, and the rest. -/
inductive Outline (α : Type u) : Type u
  | nil
  | cons (a : α) (inner rest : Outline α)

namespace Outline

def append : Outline α → Outline α → Outline α
  | nil, o => o
  | cons a inner rest, o => cons a inner (rest.append o)

instance : Append (Outline α) := ⟨append⟩

theorem nil_append (o : Outline α) : nil ++ o = o := rfl

theorem cons_append (a : α) (inner rest o : Outline α) :
    cons a inner rest ++ o = cons a inner (rest ++ o) := rfl

theorem append_nil (o : Outline α) : o ++ nil = o := by
  induction o with
  | nil => rfl
  | cons a inner rest _ ih => rw [cons_append, ih]

/-- The nodes with their depths, in depth-first order. -/
def nodes (depth : Nat) : Outline α → List (Nat × α)
  | nil => []
  | cons a inner rest => (depth, a) :: (inner.nodes (depth + 1) ++ rest.nodes depth)

/-- The forest at a depth that a list of nodes begins with, deeper nodes before it aside. -/
def read (depth : Nat) : List (Nat × α) → Outline α
  | [] => nil
  | (d, a) :: l =>
    if depth < d then read depth l
    else if d = depth then cons a (read (depth + 1) l) (read depth l)
    else nil

theorem nodes_append (depth : Nat) (o o' : Outline α) :
    (o ++ o').nodes depth = o.nodes depth ++ o'.nodes depth := by
  induction o with
  | nil => rfl
  | cons a inner rest _ ih =>
      rw [cons_append, nodes, nodes, ih, List.cons_append, List.append_assoc]

/-- The number of nodes. -/
def size : Outline α → Nat
  | nil => 0
  | cons _ inner rest => 1 + inner.size + rest.size

/-- All labels satisfy `P`. -/
def All (P : α → Prop) : Outline α → Prop
  | nil => True
  | cons a inner rest => P a ∧ inner.All P ∧ rest.All P

theorem size_append (o o' : Outline α) : (o ++ o').size = o.size + o'.size := by
  induction o with
  | nil => exact (Nat.zero_add _).symm
  | cons a inner rest _ ih => rw [cons_append, size, size, ih, ← Nat.add_assoc]

theorem all_append {P : α → Prop} (o o' : Outline α) :
    (o ++ o').All P ↔ o.All P ∧ o'.All P := by
  induction o with
  | nil => exact (and_iff_right trivial).symm
  | cons a inner rest _ ih => rw [cons_append, All, All, ih, and_assoc, and_assoc]

theorem all_leaf {P : α → Prop} (a : α) : (cons a nil nil).All P ↔ P a :=
  and_iff_left ⟨trivial, trivial⟩

theorem length_nodes (depth : Nat) (o : Outline α) : (o.nodes depth).length = o.size := by
  induction o generalizing depth with
  | nil => rfl
  | cons a inner rest ihInner ihRest =>
      rw [nodes, List.length_cons, List.length_append, ihInner, ihRest, size]
      omega

theorem forall_nodes {P : α → Prop} (depth : Nat) (o : Outline α) :
    (∀ x ∈ o.nodes depth, P x.2) ↔ o.All P := by
  induction o generalizing depth with
  | nil => exact iff_of_true nofun trivial
  | cons a inner rest ihInner ihRest =>
      rw [nodes, List.forall_mem_cons, List.forall_mem_append, ihInner, ihRest, All]

/-- Deeper nodes do not count. -/
theorem read_nodes_deeper {depth deeper : Nat} (below : depth < deeper) (o : Outline α)
    (l : List (Nat × α)) : read depth (o.nodes deeper ++ l) = read depth l := by
  induction o generalizing deeper l with
  | nil => rfl
  | cons a inner rest ihInner ihRest =>
      rw [nodes, List.cons_append, List.append_assoc, read, if_pos below,
        ihInner (Nat.lt_succ_of_lt below), ihRest below]

/-- The next node is no deeper than `depth`. -/
def Rises (depth : Nat) (l : List (Nat × α)) : Prop := ∀ x ∈ l.head?, x.1 ≤ depth

theorem Rises.nodes_append {depth : Nat} {l : List (Nat × α)} (rises : Rises depth l)
    (o : Outline α) : Rises depth (o.nodes depth ++ l) := by
  cases o with
  | nil => exact rises
  | cons a inner rest =>
      intro x first
      cases first
      exact Nat.le_refl depth

/-- Nothing is read at a depth that the nodes rise above. -/
theorem Rises.read_eq_nil {depth deeper : Nat} {l : List (Nat × α)} (rises : Rises depth l)
    (below : depth < deeper) : read deeper l = nil := by
  cases l with
  | nil => rfl
  | cons x l =>
      have above : x.1 < deeper := Nat.lt_of_le_of_lt (rises x rfl) below
      rw [read, if_neg (Nat.lt_asymm above), if_neg (Nat.ne_of_lt above)]

theorem read_nodes_append {depth : Nat} {l : List (Nat × α)} (rises : Rises depth l)
    (o : Outline α) : read depth (o.nodes depth ++ l) = o ++ read depth l := by
  induction o generalizing depth l with
  | nil => rfl
  | cons a inner rest ihInner ihRest =>
      have after : Rises depth (rest.nodes depth ++ l) := rises.nodes_append rest
      have deeper : Rises (depth + 1) (rest.nodes depth ++ l) := fun x first =>
        Nat.le_succ_of_le (after x first)
      rw [nodes, List.cons_append, List.append_assoc, read, if_neg (Nat.lt_irrefl depth),
        if_pos rfl, ihInner deeper, after.read_eq_nil (Nat.lt_succ_self depth), append_nil,
        read_nodes_deeper (Nat.lt_succ_self depth), ihRest rises, cons_append]

/-- **The depths of the nodes give the outline.** -/
theorem read_nodes (depth : Nat) (o : Outline α) : read depth (o.nodes depth) = o := by
  have none : Rises depth ([] : List (Nat × α)) := fun _ first => by cases first
  have read : read depth (o.nodes depth ++ []) = o ++ nil := read_nodes_append none o
  rwa [List.append_nil, append_nil] at read

/-! ### Drawing -/

section Drawing

variable {pad : α} {o : Outline (List α)}

/-- A line for each node, indented by `width` for each level. -/
def drawn (pad : α) (width depth : Nat) (o : Outline (List α)) : List (List α) :=
  (o.nodes depth).map fun x => List.replicate (width * x.1) pad ++ x.2

theorem drawn_cons (width depth : Nat) (label : List α) (inner rest : Outline (List α)) :
    (cons label inner rest).drawn pad width depth =
      (List.replicate (width * depth) pad ++ label) ::
        (inner.drawn pad width (depth + 1) ++ rest.drawn pad width depth) := by
  rw [drawn, nodes, List.map_cons, List.map_append, drawn, drawn]

theorem drawn_append (width depth : Nat) (o o' : Outline (List α)) :
    (o ++ o').drawn pad width depth = o.drawn pad width depth ++ o'.drawn pad width depth := by
  rw [drawn, nodes_append, List.map_append, drawn, drawn]

variable [DecidableEq α]

/-- The depth of a line, and what it says. -/
def measure (pad : α) (width : Nat) (line : List α) : Nat × List α :=
  ((line.takeWhile (· = pad)).length / width, line.dropWhile (· = pad))

/-- A label that does not start with a `pad` shows how far it is indented. -/
theorem measure_indented {width : Nat} (wide : 0 < width) (depth : Nat) {label : List α}
    (starts : label.head? ≠ some pad) :
    measure pad width (List.replicate (width * depth) pad ++ label) = (depth, label) := by
  have padding : ∀ a ∈ List.replicate (width * depth) pad, decide (a = pad) = true :=
    fun a mem => decide_eq_true (List.eq_of_mem_replicate mem)
  have label' : label.takeWhile (· = pad) = [] ∧ label.dropWhile (· = pad) = label := by
    cases label with
    | nil => exact ⟨rfl, rfl⟩
    | cons a label =>
        have other : ¬decide (a = pad) = true := fun same =>
          starts (congrArg some (of_decide_eq_true same))
        exact ⟨List.takeWhile_cons_of_neg other, List.dropWhile_cons_of_neg other⟩
  rw [measure, List.takeWhile_append_of_pos padding, List.dropWhile_append_of_pos padding,
    label'.1, label'.2, List.append_nil, List.length_replicate, Nat.mul_div_cancel_left _ wide]

/-- **The indentation of the lines gives the outline.** -/
theorem read_measure_drawn {width : Nat} (wide : 0 < width) (depth : Nat)
    (starts : o.All fun label => label.head? ≠ some pad) :
    read depth ((o.drawn pad width depth).map (measure pad width)) = o := by
  have measured : (o.drawn pad width depth).map (measure pad width) = o.nodes depth := by
    rw [drawn, List.map_map]
    refine (List.map_congr_left fun x mem => ?_).trans (List.map_id _)
    exact measure_indented wide x.1 ((forall_nodes depth o).mpr starts x mem)
  rw [measured, read_nodes]

/-- A drawing has a line for each node under its header if and only if no label has a
`sep` in it. -/
theorem length_lines_drawn_iff {sep : α} {header : List α} (width depth : Nat)
    (plain : sep ∉ header) (different : sep ≠ pad) :
    (lines sep (unlines sep (header :: o.drawn pad width depth))).length = 1 + o.size ↔
      o.All fun label => sep ∉ label := by
  have count : (header :: o.drawn pad width depth).length = 1 + o.size := by
    rw [List.length_cons, drawn, List.length_map, length_nodes, Nat.add_comm]
  have padded (n : Nat) : sep ∉ List.replicate n pad := fun mem =>
    different (List.eq_of_mem_replicate mem)
  have indented (n : Nat) (label : List α) :
      sep ∉ List.replicate n pad ++ label ↔ sep ∉ label := by
    rw [List.mem_append, not_or, and_iff_right (padded n)]
  rw [← count, length_lines_unlines_iff, List.forall_mem_cons, and_iff_right plain, drawn,
    List.forall_mem_map, ← forall_nodes depth]
  exact forall₂_congr fun x _ => indented _ x.2

end Drawing

end Outline

end SorobanFork.Lib
