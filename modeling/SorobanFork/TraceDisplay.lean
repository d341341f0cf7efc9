import SorobanFork.Lib.Outline
import SorobanFork.Render
import SorobanFork.Trace

/-!
# Traces on the screen (`trace.rs`)

A trace is printed with a line for each call and, after the calls it made, a line
for its result.  As an outline a call is a node, and its result is the last node
inside it; the text is a drawing of this outline (`toList_renderFrames`), and
`printsOutline_iff` says when a drawing shows the outline it is of.
-/

namespace SorobanFork

open Lib

/-! ## Display -/

/-- `INDENT.repeat(depth)`. -/
def indentation (depth : Nat) : String := String.join (List.replicate depth "  ")

section Display

variable (texts : DisplayTexts)

/-- The line of a call. -/
def frameHead (contract : Hash) (function : String) (args : List ScVal) (rolledBack : Bool) :
    String :=
  "[" ++ abbreviateStrkey (texts.contractStrkey contract) ++ "] " ++ function ++ "(" ++
    ", ".intercalate (renderScvals texts args) ++ ")" ++
    if rolledBack then " [rolled back]" else ""

/-- The line of its result. -/
def resultText : TraceResult → String
  | .returned v => "← " ++ renderScval texts v
  | .trapped => "← TRAPPED (no fn_return)"

mutual

def renderFrame (depth : Nat) : TraceFrame → String
  | ⟨contract, function, args, result, rolledBack, children⟩ =>
    indentation depth ++ frameHead texts contract function args rolledBack ++ "\n" ++
      renderFrames (depth + 1) children ++
      indentation (depth + 1) ++ resultText texts result ++ "\n"

/-- The frames of a vector, one after another. -/
def renderFrames (depth : Nat) : List TraceFrame → String
  | [] => ""
  | frame :: frames => renderFrame depth frame ++ renderFrames depth frames

end

/-- `Display for Trace`. -/
def Trace.display (trace : Trace) : String :=
  if trace.roots.isEmpty then
    "[TRACE] (empty — was tracing(true) set on ForkConfig before invoke?)\n"
  else "[TRACE]\n" ++ renderFrames texts 1 trace.roots

/-! ## The outline of a trace -/

mutual

/-- A node with the calls inside it, and its result after them. -/
def frameOutline : TraceFrame → Outline (List Char)
  | ⟨contract, function, args, result, rolledBack, children⟩ =>
    .cons (frameHead texts contract function args rolledBack).toList
      (framesOutline children ++ .cons (resultText texts result).toList .nil .nil) .nil

def framesOutline : List TraceFrame → Outline (List Char)
  | [] => .nil
  | frame :: frames => frameOutline frame ++ framesOutline frames

end

def Trace.outline (trace : Trace) : Outline (List Char) := framesOutline texts trace.roots

end Display

def TraceResult.NoBreak : TraceResult → Prop
  | .returned v => v.NoBreak
  | .trapped => True

mutual

/-- The texts that a frame shows have no line break. -/
def TraceFrame.NoBreak : TraceFrame → Prop
  | ⟨_, function, args, result, _, children⟩ =>
    SorobanFork.NoBreak function ∧ NoBreaks args ∧ FramesNoBreak children ∧ result.NoBreak

def FramesNoBreak : List TraceFrame → Prop
  | [] => True
  | frame :: frames => frame.NoBreak ∧ FramesNoBreak frames

end

def Trace.NoBreak (trace : Trace) : Prop := FramesNoBreak trace.roots

/-! ## A text that shows an outline -/

/-- Under its header the text has `size` lines; they are the nodes of the outline in
depth-first order, indented by two spaces for each level, and the outline can be read
back from how far they are indented. -/
structure PrintsOutline (text header : String) (size : Nat) (outline : Outline (List Char)) :
    Prop where
  count : (lines '\n' text.toList).length = 1 + size
  drawn : lines '\n' text.toList = header.toList :: outline.drawn ' ' 2 1
  readable : Outline.read 1 ((lines '\n' text.toList).tail.map (Outline.measure ' ' 2)) = outline

theorem toList_indentation (depth : Nat) :
    (indentation depth).toList = List.replicate (2 * depth) ' ' := by
  induction depth with
  | zero => rfl
  | succ depth ih =>
      rw [indentation, List.replicate_succ, String.join_cons, ← indentation, String.toList_append,
        ih, Nat.mul_succ, Nat.add_comm, ← List.replicate_append_replicate]
      rfl

/-- **A drawing** of an outline whose labels do not start with a space shows it if and
only if no label has a line break. -/
theorem printsOutline_iff {text header : String} {size : Nat} {outline : Outline (List Char)}
    (drawing : text.toList = unlines '\n' (header.toList :: outline.drawn ' ' 2 1))
    (plain : NoBreak header) (nodes : outline.size = size)
    (starts : outline.All fun label => label.head? ≠ some ' ') :
    PrintsOutline text header size outline ↔ outline.All fun label => '\n' ∉ label := by
  have different : '\n' ≠ ' ' := by decide
  have counted := Outline.length_lines_drawn_iff (o := outline) 2 1 plain different
  rw [← drawing, nodes] at counted
  refine ⟨fun shown => counted.mp shown.count, fun labels => ?_⟩
  have length : (header.toList :: outline.drawn ' ' 2 1).length = 1 + size := by
    rw [List.length_cons, Outline.drawn, List.length_map, Outline.length_nodes, nodes, Nat.add_comm]
  have drawn : lines '\n' text.toList = header.toList :: outline.drawn ' ' 2 1 := by
    have whole := counted.mpr labels
    rw [drawing, ← length] at whole
    rw [drawing, lines_unlines (length_lines_unlines_iff.mp whole)]
  refine ⟨counted.mpr labels, drawn, ?_⟩
  rw [drawn, List.tail_cons, Outline.read_measure_drawn (by decide) 1 starts]

/-! ## The text of a trace -/

section

variable (texts : DisplayTexts)

mutual

/-- **A frame** is printed as its outline is drawn. -/
theorem toList_renderFrame (depth : Nat) : ∀ frame : TraceFrame,
    (renderFrame texts depth frame).toList =
      unlines '\n' ((frameOutline texts frame).drawn ' ' 2 depth)
  | ⟨contract, function, args, result, rolledBack, children⟩ => by
      rw [renderFrame, frameOutline, Outline.drawn_cons, Outline.drawn_append, Outline.drawn_cons]
      simp only [String.toList_append, toList_indentation, toList_renderFrames (depth + 1) children,
        unlines_cons, unlines_append, List.append_assoc]
      rfl

theorem toList_renderFrames (depth : Nat) : ∀ frames : List TraceFrame,
    (renderFrames texts depth frames).toList =
      unlines '\n' ((framesOutline texts frames).drawn ' ' 2 depth)
  | [] => rfl
  | frame :: frames => by
      rw [renderFrames, framesOutline, Outline.drawn_append, unlines_append, String.toList_append,
        toList_renderFrame depth frame, toList_renderFrames depth frames]

end

mutual

theorem size_frameOutline : ∀ frame : TraceFrame,
    (frameOutline texts frame).size = 2 * countFrames frame
  | ⟨contract, function, args, result, rolledBack, children⟩ => by
      rw [frameOutline, Outline.size, Outline.size_append, size_framesOutline children, countFrames]
      simp only [Outline.size]
      omega

/-- Two lines for each frame. -/
theorem size_framesOutline : ∀ frames : List TraceFrame,
    (framesOutline texts frames).size = 2 * countAllFrames frames
  | [] => rfl
  | frame :: frames => by
      rw [framesOutline, Outline.size_append, size_frameOutline frame, size_framesOutline frames,
        countAllFrames, Nat.mul_add]

end

theorem noBreak_frameHead {contract : Hash} {function : String} {args : List ScVal}
    {rolledBack : Bool} :
    NoBreak (frameHead texts contract function args rolledBack) ↔
      NoBreak function ∧ NoBreaks args := by
  have contractNoBreak := noBreak_abbreviateStrkey (texts.noBreak_contractStrkey contract)
  have mark : NoBreak (if rolledBack then " [rolled back]" else "") := by
    split <;> decide
  have marks : NoBreak "[" ∧ NoBreak "] " ∧ NoBreak "(" ∧ NoBreak ")" :=
    ⟨by decide, by decide, by decide, by decide⟩
  rw [frameHead]
  simp only [noBreak_append, noBreak_intercalate, noBreaks_renderScvals, contractNoBreak, mark,
    marks, true_and, and_true]

theorem noBreak_resultText (result : TraceResult) :
    NoBreak (resultText texts result) ↔ result.NoBreak := by
  cases result with
  | returned v =>
      rw [resultText, noBreak_append, noBreak_renderScval, and_iff_right (by decide)]
      rfl
  | trapped => exact iff_of_true (by decide : NoBreak "← TRAPPED (no fn_return)") trivial

mutual

theorem all_noBreak_frameOutline : ∀ frame : TraceFrame,
    ((frameOutline texts frame).All fun label => '\n' ∉ label) ↔ frame.NoBreak
  | ⟨contract, function, args, result, rolledBack, children⟩ => by
      have head : '\n' ∉ (frameHead texts contract function args rolledBack).toList ↔
          NoBreak function ∧ NoBreaks args := noBreak_frameHead texts
      have result' : '\n' ∉ (resultText texts result).toList ↔ result.NoBreak :=
        noBreak_resultText texts result
      rw [frameOutline, Outline.All, Outline.all_append, all_noBreak_framesOutline children,
        Outline.all_leaf, head, result', Outline.All, and_true, and_assoc, TraceFrame.NoBreak]

/-- The labels have no line break if and only if the texts in them have none. -/
theorem all_noBreak_framesOutline : ∀ frames : List TraceFrame,
    ((framesOutline texts frames).All fun label => '\n' ∉ label) ↔ FramesNoBreak frames
  | [] => Iff.rfl
  | frame :: frames => by
      rw [framesOutline, Outline.all_append, all_noBreak_frameOutline frame,
        all_noBreak_framesOutline frames, FramesNoBreak]

end

theorem starts_of_append {s t : String} {c : Char} (first : s.toList.head? = some c)
    (mark : c ≠ ' ') : (s ++ t).toList.head? ≠ some ' ' := by
  rw [String.toList_append, List.head?_append, first, Option.some_or]
  exact fun same => mark (Option.some.inj same)

theorem starts_frameHead (contract : Hash) (function : String) (args : List ScVal)
    (rolledBack : Bool) :
    (frameHead texts contract function args rolledBack).toList.head? ≠ some ' ' := by
  unfold frameHead
  simp only [String.append_assoc]
  exact starts_of_append (c := '[') rfl (by decide)

theorem starts_resultText (result : TraceResult) :
    (resultText texts result).toList.head? ≠ some ' ' := by
  cases result with
  | returned v => exact starts_of_append (c := '←') rfl (by decide)
  | trapped => exact (by decide : "← TRAPPED (no fn_return)".toList.head? ≠ some ' ')

mutual

theorem all_starts_frameOutline : ∀ frame : TraceFrame,
    (frameOutline texts frame).All fun label => label.head? ≠ some ' '
  | ⟨contract, function, args, result, rolledBack, children⟩ => by
      rw [frameOutline, Outline.All, Outline.all_append, Outline.all_leaf, Outline.All, and_true]
      exact ⟨starts_frameHead texts contract function args rolledBack,
        all_starts_framesOutline children, starts_resultText texts result⟩

/-- No label starts with a space. -/
theorem all_starts_framesOutline : ∀ frames : List TraceFrame,
    (framesOutline texts frames).All fun label => label.head? ≠ some ' '
  | [] => trivial
  | frame :: frames => by
      rw [framesOutline, Outline.all_append]
      exact ⟨all_starts_frameOutline frame, all_starts_framesOutline frames⟩

end

/-- **A trace** shows its calls if and only if no text in it has a line break. -/
theorem Trace.printsOutline_iff (trace : Trace) (nonempty : trace.roots ≠ []) :
    PrintsOutline (trace.display texts) "[TRACE]" (2 * trace.frameCount) (trace.outline texts) ↔
      trace.NoBreak := by
  have drawing : (trace.display texts).toList =
      unlines '\n' ("[TRACE]".toList :: (trace.outline texts).drawn ' ' 2 1) := by
    rw [Trace.display, if_neg (mt List.isEmpty_iff.mp nonempty), String.toList_append,
      toList_renderFrames, unlines_cons]
    rfl
  exact (SorobanFork.printsOutline_iff drawing (by decide) (size_framesOutline texts trace.roots)
    (all_starts_framesOutline texts trace.roots)).trans
      (all_noBreak_framesOutline texts trace.roots)

end

end SorobanFork
