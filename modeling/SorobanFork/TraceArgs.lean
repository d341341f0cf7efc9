import SorobanFork.Trace

/-!
# The arguments of a traced call

The host packs the arguments of a call into one value, by their number
(`packArgs`), and `unwrapArgsPayload` takes them out again.  Packing is not
injective: a single vector looks like the list of its elements, and a single void
looks like no argument at all.  These are the only two cases in which a frame
does not show the arguments of its call (`unwrapArgsPayload_packArgs_iff`).
-/

namespace SorobanFork

/-- How the host packs the arguments of a call. -/
def packArgs : List ScVal → ScVal
  | [] => .void
  | [arg] => arg
  | args => .vec (some args)

/-- A single argument that is packed like another list of arguments. -/
def Ambiguous (args : List ScVal) : Prop := args = [.void] ∨ ∃ elements, args = [.vec elements]

/-- A vector is not its own only element. -/
theorem ne_singleton_vec (args : List ScVal) : args ≠ [.vec (some args)] := by
  intro same
  have size := congrArg sizeOf same
  simp only [List.cons.sizeOf_spec, List.nil.sizeOf_spec, ScVal.vec.sizeOf_spec,
    Option.some.sizeOf_spec] at size
  omega

/-- **Which arguments are recovered**: all but a single void and a single vector. -/
theorem unwrapArgsPayload_packArgs_iff (args : List ScVal) :
    unwrapArgsPayload (packArgs args) = args ↔ ¬Ambiguous args := by
  unfold Ambiguous
  match args with
  | [] => simp [packArgs, unwrapArgsPayload]
  | [arg] =>
      cases arg with
      | void => simp [packArgs, unwrapArgsPayload]
      | vec elements =>
          cases elements with
          | none => simp [packArgs, unwrapArgsPayload]
          | some elements =>
              simp [packArgs, unwrapArgsPayload, ne_singleton_vec elements]
      | _ => simp [packArgs, unwrapArgsPayload]
  | first :: second :: rest => simp [packArgs, unwrapArgsPayload]

theorem FnCall.data_of_ofTopics {topics : List ScVal} {data : ScVal} {failed : Bool}
    {call : FnCall} (parsed : FnCall.ofTopics topics data failed = some call) :
    call.data = data := by
  match topics with
  | _ :: callee :: name :: _ =>
      simp only [FnCall.ofTopics, Option.bind_eq_bind, Option.bind_eq_some_iff, Option.pure_def,
        Option.some.injEq] at parsed
      obtain ⟨contract, -, function, -, rfl⟩ := parsed
      rfl

/-- A frame shows what is taken out of the data of its event. -/
theorem args_of_parseFnCall {topics : List ScVal} {data : ScVal} {failed : Bool}
    {frame : TraceFrame} (parsed : parseFnCall topics data failed = some frame) :
    frame.args = unwrapArgsPayload data := by
  rw [parseFnCall_eq] at parsed
  obtain ⟨call, topicsParsed, rfl⟩ := Option.map_eq_some_iff.mp parsed
  show unwrapArgsPayload call.data = unwrapArgsPayload data
  rw [FnCall.data_of_ofTopics topicsParsed]

/-- **Frames show the arguments of their calls**, and so frames of different calls show
different arguments, unless the arguments are a single void or a single vector. -/
theorem frames_show_arguments :
    (∀ args, unwrapArgsPayload (packArgs args) = args ↔ ¬Ambiguous args) ∧
      ∀ args args', ¬Ambiguous args → ¬Ambiguous args' → args ≠ args' →
        ∀ topics topics' failed failed' frame frame',
          parseFnCall topics (packArgs args) failed = some frame →
          parseFnCall topics' (packArgs args') failed' = some frame' →
            frame.args = args ∧ frame'.args = args' ∧ frame.args ≠ frame'.args := by
  refine ⟨unwrapArgsPayload_packArgs_iff, ?_⟩
  intro args args' clear clear' differ topics topics' failed failed' frame frame' parsed parsed'
  have shown := (unwrapArgsPayload_packArgs_iff args).mpr clear
  have shown' := (unwrapArgsPayload_packArgs_iff args').mpr clear'
  rw [args_of_parseFnCall parsed, args_of_parseFnCall parsed', shown, shown']
  exact ⟨rfl, rfl, differ⟩

/-- A call with a single void shows no argument: it is packed like a call with none. -/
theorem single_void_shows_nothing :
    (∀ elements, [ScVal.void] ≠ [.vec elements]) ∧
      packArgs [.void] = packArgs [] ∧
      unwrapArgsPayload (packArgs [.void]) = [] ∧
      unwrapArgsPayload (packArgs [.void]) ≠ [.void] := by
  refine ⟨fun elements same => ?_, rfl, rfl, ?_⟩
  · cases same
  · decide

end SorobanFork
