import SorobanFork.TraceForest

/-!
# Traces of any stream

Whatever the stream, the trace loses no call and makes none up: its preorder is
the stream's well-formed `fn_call`s, its postorder the `fn_return`s that met an
open frame, and what did not return trapped (`fromEvents_conserves`).  The walks
over a trace are those over the parsed forest (`walkAll_frames`,
`allReturnedValues_frames`), which `Forest.walk_parse` is about.
-/

namespace SorobanFork

open Lib

/-! ## Walks over a trace -/

mutual

/-- A frame and those below it in preorder, each with its depth and alone. -/
def TraceFrame.walk (depth : Nat) : TraceFrame → List (Nat × TraceFrame)
  | ⟨contract, function, args, result, rolledBack, children⟩ =>
    (depth, ⟨contract, function, args, result, rolledBack, []⟩) :: walkAll (depth + 1) children

def walkAll (depth : Nat) : List TraceFrame → List (Nat × TraceFrame)
  | [] => []
  | frame :: frames => frame.walk depth ++ walkAll depth frames

end

/-- The frames of a trace in preorder. -/
def Trace.walk (trace : Trace) : List (Nat × TraceFrame) := walkAll 0 trace.roots

def TraceResult.value : TraceResult → Option ScVal
  | .returned value => some value
  | .trapped => none

mutual

/-- The values of the frames that returned, in postorder. -/
def TraceFrame.returnedValues : TraceFrame → List ScVal
  | ⟨_, _, _, result, _, children⟩ => allReturnedValues children ++ result.value.toList

def allReturnedValues : List TraceFrame → List ScVal
  | [] => []
  | frame :: frames => frame.returnedValues ++ allReturnedValues frames

end

def Trace.returnedValues (trace : Trace) : List ScVal := allReturnedValues trace.roots

/-! ## The walks of a forest -/

theorem walkAll_frames (depth : Nat) (f : Forest FnCall FnReturn) :
    walkAll depth (frames f) =
      (f.nodes depth).map fun node => (node.1, node.2.1.frame node.2.2 []) := by
  induction f generalizing depth with
  | nil => rfl
  | cons call leave calls rest ihCalls ihRest =>
      have own : (call.frame leave (frames calls)).walk depth =
          (depth, call.frame leave []) :: walkAll (depth + 1) (frames calls) := rfl
      rw [frames, walkAll, own, ihCalls, ihRest, Forest.nodes, List.map_cons, List.map_append,
        List.cons_append]

theorem walk_frames (f : Forest FnCall FnReturn) :
    (⟨frames f⟩ : Trace).walk =
      (f.nodes 0).map fun node => (node.1, node.2.1.frame node.2.2 []) := walkAll_frames 0 f

/-- A frame that did not return trapped, and was rolled back. -/
theorem trapped_of_mem_walk {f : Forest FnCall FnReturn} {node : Nat × TraceFrame}
    (mem : node ∈ (⟨frames f⟩ : Trace).walk) (unreturned : node.2.result.value = none) :
    node.2.result = .trapped ∧ node.2.rolledBack = true := by
  rw [walk_frames, List.mem_map] at mem
  obtain ⟨⟨depth, call, leave⟩, -, rfl⟩ := mem
  cases leave with
  | none => exact ⟨rfl, rfl⟩
  | some ret => cases unreturned

/-- The returns of the calls, in postorder. -/
def returnsOf (f : Forest FnCall FnReturn) (depth : Nat) : List FnReturn :=
  f.walk (fun _ _ => []) (fun ret => [ret]) depth

theorem mem_returnsOf {ret : FnReturn} {f : Forest FnCall FnReturn} {depth : Nat} :
    ret ∈ returnsOf f depth ↔ ∃ node ∈ f.nodes depth, node.2.2 = some ret := by
  simp only [returnsOf, Forest.mem_walk_iff, List.not_mem_nil, false_or, List.flatMap_singleton',
    Option.mem_toList]

theorem allReturnedValues_frames (f : Forest FnCall FnReturn) (depth : Nat) :
    allReturnedValues (frames f) = (returnsOf f depth).map FnReturn.value := by
  induction f generalizing depth with
  | nil => rfl
  | cons call leave calls rest ihCalls ihRest =>
      have own : (call.frame leave (frames calls)).returnedValues =
          allReturnedValues (frames calls) ++ (leave.map FnReturn.value).toList := by
        cases leave with
        | none => rfl
        | some ret => rfl
      have split : returnsOf (.cons call leave calls rest) depth =
          returnsOf calls (depth + 1) ++ (leave.toList ++ returnsOf rest depth) := by
        rw [returnsOf, Forest.walk, List.nil_append, List.flatMap_singleton']
        rfl
      rw [frames, allReturnedValues, own, ihCalls (depth + 1), ihRest depth, split,
        List.map_append, List.map_append, Option.toList_map, List.append_assoc]

theorem countAllFrames_frames (depth : Nat) (f : Forest FnCall FnReturn) :
    countAllFrames (frames f) = (f.nodes depth).length := by
  induction f generalizing depth with
  | nil => rfl
  | cons call leave calls rest ihCalls ihRest =>
      have own : countFrames (call.frame leave (frames calls)) =
          1 + countAllFrames (frames calls) := rfl
      rw [frames, countAllFrames, own, ihCalls (depth + 1), ihRest depth, Forest.nodes,
        List.length_cons, List.length_append]
      omega

/-- The call trapped, or an event of its own is marked as failed. -/
def FnCall.Fails (call : FnCall) (leave : Option FnReturn) : Prop :=
  call.failed = true ∨ (∃ ret, leave = some ret ∧ ret.failed = true) ∨ leave = none

theorem FnCall.fails_iff (call : FnCall) (leave : Option FnReturn) :
    ((call.frame leave []).rolledBack || (call.frame leave []).result.isTrapped) = true ↔
      call.Fails leave := by
  cases leave with
  | none => simp [frame, Fails, TraceResult.isTrapped]
  | some ret => simp [frame, Fails, TraceResult.isTrapped]

theorem someFailure_frames (depth : Nat) (f : Forest FnCall FnReturn) :
    someFailure (frames f) = true ↔ ∃ node ∈ f.nodes depth, node.2.1.Fails node.2.2 := by
  induction f generalizing depth with
  | nil => simp [frames, someFailure, Forest.nodes]
  | cons call leave calls rest ihCalls ihRest =>
      have own : anyFailure (call.frame leave (frames calls)) =
          ((call.frame leave []).rolledBack || (call.frame leave []).result.isTrapped ||
            someFailure (frames calls)) := rfl
      rw [frames, someFailure, own, Bool.or_eq_true, Bool.or_eq_true, call.fails_iff leave,
        ihCalls (depth + 1), ihRest depth, Forest.nodes]
      simp only [List.mem_cons, List.mem_append, or_and_right, exists_or, exists_eq_left, or_assoc]

/-- A trace had failures when an event of a frame says so or a frame trapped. -/
theorem hadFailures_iff (f : Forest FnCall FnReturn) :
    (⟨frames f⟩ : Trace).hadFailures = true ↔
      (∃ call ∈ (f.nodes 0).map (·.2.1), call.failed = true) ∨
        (∃ ret ∈ returnsOf f 0, ret.failed = true) ∨
        ∃ node ∈ (⟨frames f⟩ : Trace).walk, node.2.result = .trapped := by
  rw [Trace.hadFailures, someFailure_frames 0, walk_frames]
  constructor
  · rintro ⟨node, mem, failed | ⟨ret, returned, failed⟩ | trapped⟩
    · exact .inl ⟨node.2.1, List.mem_map_of_mem mem, failed⟩
    · exact .inr (.inl ⟨ret, mem_returnsOf.mpr ⟨node, mem, returned⟩, failed⟩)
    · refine .inr (.inr ⟨_, List.mem_map_of_mem mem, ?_⟩)
      rw [trapped]
      rfl
  · rintro (⟨call, mem, failed⟩ | ⟨ret, mem, failed⟩ | ⟨node, mem, trapped⟩)
    · obtain ⟨node, inForest, rfl⟩ := List.mem_map.mp mem
      exact ⟨node, inForest, .inl failed⟩
    · obtain ⟨node, inForest, returned⟩ := mem_returnsOf.mp mem
      exact ⟨node, inForest, .inr (.inl ⟨ret, returned, failed⟩)⟩
    · obtain ⟨⟨depth, call, leave⟩, inForest, rfl⟩ := List.mem_map.mp mem
      refine ⟨_, inForest, .inr (.inr ?_)⟩
      cases leave with
      | none => rfl
      | some ret => cases trapped

/-! ## The events of a stream -/

/-- The call of a well-formed diagnostic `fn_call`. -/
def HostEvent.fnCall (e : HostEvent) : Option FnCall :=
  match e.mark with
  | some (.enter call) => some call
  | _ => none

/-- The return of a diagnostic `fn_return`. -/
def HostEvent.fnReturn (e : HostEvent) : Option FnReturn :=
  match e.mark with
  | some (.leave ret) => some ret
  | _ => none

/-- The well-formed `fn_call`s, each with the number of frames that are open when
it arrives. -/
def arrivedCalls (parser : TraceParser) : List HostEvent → List (Nat × FnCall)
  | [] => []
  | e :: events =>
    (e.fnCall.map fun call => (parser.stack.length, call)).toList ++
      arrivedCalls (readEvent parser e) events

/-- The `fn_return`s that arrive while a frame is open. -/
def consumedReturns (parser : TraceParser) : List HostEvent → List FnReturn
  | [] => []
  | e :: events =>
    (if parser.stack.isEmpty then [] else e.fnReturn.toList) ++
      consumedReturns (readEvent parser e) events

theorem length_stack_parserOf (s : Forest.Parse FnCall FnReturn) :
    (parserOf s).stack.length = s.stack.length := List.length_map _

/-- The arrived calls are what a walk along the log enters. -/
theorem arrivedCalls_parserOf (s : Forest.Parse FnCall FnReturn) (events : List HostEvent) :
    arrivedCalls (parserOf s) events =
      Mark.walk (fun depth call => [(depth, call)]) (fun _ => []) s.stack.length
        (events.filterMap HostEvent.mark) := by
  induction events generalizing s with
  | nil => rfl
  | cons e events ih =>
      rw [arrivedCalls, readEvent_parserOf, ih, HostEvent.fnCall, length_stack_parserOf]
      rcases mark : e.mark with _ | call | ret
      · rw [List.filterMap_cons_none mark]
        rfl
      · rw [List.filterMap_cons_some mark]
        rfl
      · have closed := s.length_step_leave ret
        rw [List.filterMap_cons_some mark, Option.elim_some, closed]
        obtain ⟨stack, roots⟩ := s
        cases stack with
        | nil => rfl
        | cons top stack => rfl

/-- The consumed returns are what it leaves with. -/
theorem consumedReturns_parserOf (s : Forest.Parse FnCall FnReturn) (events : List HostEvent) :
    consumedReturns (parserOf s) events =
      Mark.walk (fun _ _ => []) (fun ret => [ret]) s.stack.length
        (events.filterMap HostEvent.mark) := by
  induction events generalizing s with
  | nil => rfl
  | cons e events ih =>
      rw [consumedReturns, readEvent_parserOf, ih, HostEvent.fnReturn]
      rcases mark : e.mark with _ | call | ret
      · rw [List.filterMap_cons_none mark, Option.toList_none, ite_self]
        rfl
      · rw [List.filterMap_cons_some mark, Option.toList_none, ite_self]
        rfl
      · have closed := s.length_step_leave ret
        rw [List.filterMap_cons_some mark, Option.elim_some, closed]
        obtain ⟨stack, roots⟩ := s
        cases stack with
        | nil => rfl
        | cons top stack => rfl

/-- Without the depths, the arrived calls are the well-formed `fn_call`s. -/
theorem map_arrivedCalls (parser : TraceParser) (events : List HostEvent) :
    (arrivedCalls parser events).map (·.2) = events.filterMap HostEvent.fnCall := by
  induction events generalizing parser with
  | nil => rfl
  | cons e events ih =>
      rw [arrivedCalls, List.map_append, ih]
      rcases call : e.fnCall with _ | call
      · rw [List.filterMap_cons_none call]
        rfl
      · rw [List.filterMap_cons_some call]
        rfl

theorem HostEvent.fnCall_eq_some {e : HostEvent} {call : FnCall} :
    e.fnCall = some call ↔ e.mark = some (.enter call) := by
  rw [fnCall]
  rcases e.mark with _ | other | ret
  · exact ⟨nofun, nofun⟩
  · simp only [Option.some.injEq, Mark.enter.injEq]
  · exact ⟨nofun, nofun⟩

theorem HostEvent.fnReturn_eq_some {e : HostEvent} {ret : FnReturn} :
    e.fnReturn = some ret ↔ e.mark = some (.leave ret) := by
  rw [fnReturn]
  rcases e.mark with _ | call | other
  · exact ⟨nofun, nofun⟩
  · exact ⟨nofun, nofun⟩
  · simp only [Option.some.injEq, Mark.leave.injEq]

/-! ## What is conserved -/

/-- The trace, its calls and its returns, in terms of the parsed forest. -/
theorem exists_forest (events : List HostEvent) :
    ∃ forest : Forest FnCall FnReturn,
      Trace.fromEvents events = ⟨frames forest⟩ ∧
      arrivedCalls ⟨[], []⟩ events = (forest.nodes 0).map (fun node => (node.1, node.2.1)) ∧
      consumedReturns ⟨[], []⟩ events = returnsOf forest 0 := by
  have start : parserOf ⟨[], .nil⟩ = ⟨[], []⟩ := rfl
  refine ⟨Forest.parse (events.filterMap HostEvent.mark), Trace.fromEvents_eq events, ?_, ?_⟩
  · have calls := arrivedCalls_parserOf ⟨[], .nil⟩ events
    rw [start, List.length_nil, ← Forest.walk_parse, Forest.walk_enter] at calls
    rw [calls, List.map_eq_flatMap]
  · have returns := consumedReturns_parserOf ⟨[], .nil⟩ events
    rwa [start, List.length_nil, ← Forest.walk_parse] at returns

/-- **Calls are conserved.**  For every stream, the frames of the trace in
preorder are the well-formed `fn_call`s, each as deep as frames were open when it
arrived; the values of the frames that returned, in postorder, are those of the
`fn_return`s that met an open frame; every other frame trapped and was rolled
back; and the trace had failures when an event of a frame says so or a frame
trapped.  The last two parts say which events are well-formed. -/
theorem fromEvents_conserves (events : List HostEvent) :
    let trace := Trace.fromEvents events
    let calls := arrivedCalls ⟨[], []⟩ events
    let returns := consumedReturns ⟨[], []⟩ events
    (trace.walk.map fun node => (node.1, node.2.contract, node.2.function, node.2.args)) =
        (calls.map fun call =>
          (call.1, call.2.contract, call.2.function, unwrapArgsPayload call.2.data)) ∧
      calls.map (·.2) = events.filterMap HostEvent.fnCall ∧
      trace.frameCount = (events.filterMap HostEvent.fnCall).length ∧
      trace.returnedValues = returns.map (·.value) ∧
      (∀ node ∈ trace.walk, node.2.result.value = none →
        node.2.result = .trapped ∧ node.2.rolledBack = true) ∧
      (trace.hadFailures = true ↔
        (∃ call ∈ events.filterMap HostEvent.fnCall, call.failed = true) ∨
          (∃ ret ∈ returns, ret.failed = true) ∨
          ∃ node ∈ trace.walk, node.2.result = .trapped) ∧
      (∀ (e : HostEvent) (call : FnCall), e.fnCall = some call ↔
        e.event.type = .diagnostic ∧
        (∃ others, e.event.topics = .symbol (utf8 "fn_call") :: .bytes call.contract.toList ::
          .symbol (utf8 call.function) :: others) ∧
        e.event.data = call.data ∧ e.failedCall = call.failed) ∧
      ∀ (e : HostEvent) (ret : FnReturn), e.fnReturn = some ret ↔
        e.event.type = .diagnostic ∧
        (∃ others, e.event.topics = .symbol (utf8 "fn_return") :: others) ∧
        e.event.data = ret.value ∧ e.failedCall = ret.failed := by
  obtain ⟨forest, shown, called, returned⟩ := exists_forest events
  rw [← map_arrivedCalls ⟨[], []⟩ events, shown, called, returned]
  refine ⟨?_, rfl, ?_, allReturnedValues_frames forest 0, ?_, ?_,
    fun _ _ => HostEvent.fnCall_eq_some.trans HostEvent.mark_eq_enter,
    fun _ _ => HostEvent.fnReturn_eq_some.trans HostEvent.mark_eq_leave⟩
  · rw [walk_frames, List.map_map, List.map_map]
    rfl
  · rw [List.length_map, List.length_map]
    exact countAllFrames_frames 0 forest
  · intro node mem unreturned
    exact trapped_of_mem_walk mem unreturned
  · rw [List.map_map]
    exact hadFailures_iff forest

end SorobanFork
