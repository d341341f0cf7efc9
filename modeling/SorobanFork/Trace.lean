import SorobanFork.Lib.Forest
import SorobanFork.Xdr.Transaction

/-!
# Call traces (`trace.rs`)

The host reports every call as a `fn_call` and, when it returns, a `fn_return`
diagnostic event.  `Trace.fromEvents` rebuilds the calls from these events with
a stack of open frames; a `fn_return` closes the frame on top of it, whatever
contract and function the event names.

`Trace.fromEvents_eq` connects it to the parse of a log: the events are marks
(`HostEvent.mark`), and the trace shows the parsed forest (`frames`).
-/

namespace SorobanFork

open Lib

/-- A diagnostic event of the host. -/
structure HostEvent : Type where
  event : ContractEvent
  failedCall : Bool
deriving DecidableEq

/-- What happened to a frame. -/
inductive TraceResult : Type
  | returned (value : ScVal)
  | trapped
deriving DecidableEq

/-- One frame of the call tree.  `contract` holds the bytes of the
`stellar_strkey::Contract`. -/
structure TraceFrame : Type where
  contract : Hash
  function : String
  args : List ScVal
  result : TraceResult
  rolledBack : Bool
  children : List TraceFrame

structure Trace : Type where
  roots : List TraceFrame

/-! ## Decoding an event -/

/-- The arguments in the payload of a `fn_call`: none, one as it is, or a vector. -/
def unwrapArgsPayload : ScVal → List ScVal
  | .void => []
  | .vec (some args) => args
  | .vec none => []
  | single => [single]

def scvalAsSymbolStr : ScVal → Option String
  | .symbol s => fromUtf8 s
  | _ => none

def scvalAsContract : ScVal → Option Hash
  | .bytes b => if length : b.length = 32 then some ⟨b, length⟩ else none
  | _ => none

/-- The new frame of a `fn_call`, or `none` for a malformed one. -/
def parseFnCall (topics : List ScVal) (data : ScVal) (failed : Bool) : Option TraceFrame :=
  match topics with
  | _ :: callee :: name :: _ => do
    let contract ← scvalAsContract callee
    let function ← scvalAsSymbolStr name
    return {
      contract := contract
      function := function
      args := unwrapArgsPayload data
      result := .trapped
      rolledBack := failed
      children := [] }
  | _ => none

/-! ## Parsing the stream -/

/-- The two vectors of the parser; the top of the stack is its head. -/
structure TraceParser : Type where
  stack : List TraceFrame
  roots : List TraceFrame

/-- Add a frame to the children of the top of the stack, or to the roots. -/
def attach (frame : TraceFrame) (parser : TraceParser) : TraceParser :=
  match parser.stack with
  | parent :: stack =>
    ⟨{ parent with children := parent.children ++ [frame] } :: stack, parser.roots⟩
  | [] => ⟨[], parser.roots ++ [frame]⟩

/-- The symbol in the first topic. -/
def HostEvent.kind (e : HostEvent) : Option String := e.event.topics.head?.bind scvalAsSymbolStr

/-- One turn of the loop over the events. -/
def readEvent (parser : TraceParser) (e : HostEvent) : TraceParser :=
  if e.event.type ≠ .diagnostic then parser
  else
    match e.kind with
    | some "fn_call" =>
      match parseFnCall e.event.topics e.event.data e.failedCall with
      | some frame => { parser with stack := frame :: parser.stack }
      | none => parser
    | some "fn_return" =>
      match parser.stack with
      | frame :: stack =>
        attach
          { frame with
            result := .returned e.event.data
            rolledBack := frame.rolledBack || e.failedCall }
          { parser with stack := stack }
      | [] => parser
    | _ => parser

theorem attach_stack_length (frame : TraceFrame) (parser : TraceParser) :
    (attach frame parser).stack.length = parser.stack.length := by
  obtain ⟨stack, roots⟩ := parser
  cases stack with
  | nil => rfl
  | cons parent stack => rfl

/-- The loop over the frames that are still open at the end: they trapped. -/
def drain : TraceParser → List TraceFrame
  | ⟨[], roots⟩ => roots
  | ⟨frame :: stack, roots⟩ =>
    drain (attach { frame with result := .trapped, rolledBack := true } ⟨stack, roots⟩)
termination_by parser => parser.stack.length
decreasing_by
  rw [attach_stack_length]
  exact Nat.lt_succ_self _

theorem drain_nil (roots : List TraceFrame) : drain ⟨[], roots⟩ = roots := by
  rw [drain]

theorem drain_cons (frame : TraceFrame) (stack roots : List TraceFrame) :
    drain ⟨frame :: stack, roots⟩ =
      drain (attach { frame with result := .trapped, rolledBack := true } ⟨stack, roots⟩) := by
  rw [drain]

def Trace.fromEvents (events : List HostEvent) : Trace :=
  ⟨drain (events.foldl readEvent ⟨[], []⟩)⟩

/-! ## Questions about a trace -/

mutual

def countFrames : TraceFrame → Nat
  | ⟨_, _, _, _, _, children⟩ => 1 + countAllFrames children

/-- The sum over a vector of frames. -/
def countAllFrames : List TraceFrame → Nat
  | [] => 0
  | frame :: frames => countFrames frame + countAllFrames frames

end

def Trace.frameCount (trace : Trace) : Nat := countAllFrames trace.roots

def TraceResult.isTrapped : TraceResult → Bool
  | .returned _ => false
  | .trapped => true

mutual

def anyFailure : TraceFrame → Bool
  | ⟨_, _, _, result, rolledBack, children⟩ =>
    rolledBack || result.isTrapped || someFailure children

/-- Whether a frame of a vector has a failure. -/
def someFailure : List TraceFrame → Bool
  | [] => false
  | frame :: frames => anyFailure frame || someFailure frames

end

def Trace.hadFailures (trace : Trace) : Bool := someFailure trace.roots

/-! ## The trace as a forest of calls -/

/-- What a `fn_call` event says about its frame. -/
structure FnCall : Type where
  contract : Hash
  function : String
  data : ScVal
  failed : Bool
deriving DecidableEq

/-- What a `fn_return` event says about its frame. -/
structure FnReturn : Type where
  value : ScVal
  failed : Bool
deriving DecidableEq

/-- The frame of a call that is still open. -/
def FnCall.openFrame (call : FnCall) (children : List TraceFrame) : TraceFrame where
  contract := call.contract
  function := call.function
  args := unwrapArgsPayload call.data
  result := .trapped
  rolledBack := call.failed
  children := children

/-- The frame of a call that returned, or else trapped. -/
def FnCall.frame (call : FnCall) (leave : Option FnReturn) (children : List TraceFrame) :
    TraceFrame where
  contract := call.contract
  function := call.function
  args := unwrapArgsPayload call.data
  result :=
    match leave with
    | some ret => .returned ret.value
    | none => .trapped
  -- a call that trapped was rolled back; another one is if an event of its own says so
  rolledBack :=
    match leave with
    | some ret => call.failed || ret.failed
    | none => true
  children := children

/-- The frames of a forest of calls. -/
def frames : Forest FnCall FnReturn → List TraceFrame
  | .nil => []
  | .cons call leave calls rest => call.frame leave (frames calls) :: frames rest

@[simp] theorem frames_append (f g : Forest FnCall FnReturn) :
    frames (f ++ g) = frames f ++ frames g := by
  induction f with
  | nil => rfl
  | cons call leave calls rest _ ih => rw [Forest.cons_append, frames, ih, frames, List.cons_append]

/-- The call of a well-formed `fn_call`. -/
def FnCall.ofTopics (topics : List ScVal) (data : ScVal) (failed : Bool) : Option FnCall :=
  match topics with
  | _ :: callee :: name :: _ => do
    let contract ← scvalAsContract callee
    let function ← scvalAsSymbolStr name
    return ⟨contract, function, data, failed⟩
  | _ => none

/-- What an event is in the log of the calls. -/
def HostEvent.mark (e : HostEvent) : Option (Mark FnCall FnReturn) :=
  if e.event.type ≠ .diagnostic then none
  else
    match e.kind with
    | some "fn_call" => (FnCall.ofTopics e.event.topics e.event.data e.failedCall).map .enter
    | some "fn_return" => some (.leave ⟨e.event.data, e.failedCall⟩)
    | _ => none

/-- The parser that stands for a parse under way. -/
def parserOf (s : Forest.Parse FnCall FnReturn) : TraceParser :=
  ⟨s.stack.map fun top => top.1.openFrame (frames top.2), frames s.roots⟩

theorem parseFnCall_eq (topics : List ScVal) (data : ScVal) (failed : Bool) :
    parseFnCall topics data failed =
      (FnCall.ofTopics topics data failed).map fun call => call.openFrame [] := by
  match topics with
  | [] => rfl
  | [_] => rfl
  | [_, _] => rfl
  | _ :: callee :: name :: _ =>
      simp only [parseFnCall, FnCall.ofTopics]
      cases scvalAsContract callee with
      | none => rfl
      | some contract =>
          cases scvalAsSymbolStr name with
          | none => rfl
          | some function => rfl

/-- Attaching the frame of a call adds the call. -/
theorem attach_parserOf (s : Forest.Parse FnCall FnReturn) (call : FnCall)
    (leave : Option FnReturn) (calls : Forest FnCall FnReturn) :
    attach (call.frame leave (frames calls)) (parserOf s) =
      parserOf (s.attach (.cons call leave calls .nil)) := by
  obtain ⟨stack, roots⟩ := s
  cases stack with
  | nil => simp only [attach, parserOf, Forest.Parse.attach, List.map_nil, frames_append, frames]
  | cons top stack =>
      simp only [attach, parserOf, Forest.Parse.attach, List.map_cons, frames_append, frames,
        FnCall.openFrame]

/-- Reading an event is a step of the parse, if the event is a mark at all. -/
theorem readEvent_parserOf (s : Forest.Parse FnCall FnReturn) (e : HostEvent) :
    readEvent (parserOf s) e = parserOf (e.mark.elim s s.step) := by
  unfold readEvent HostEvent.mark
  split
  · rfl
  split
  -- `fn_call`
  · rw [parseFnCall_eq]
    cases FnCall.ofTopics e.event.topics e.event.data e.failedCall with
    | none => rfl
    | some call => rfl
  -- `fn_return`
  · obtain ⟨stack, roots⟩ := s
    cases stack with
    | nil => rfl
    | cons top stack =>
        exact attach_parserOf ⟨stack, roots⟩ top.1 (some ⟨e.event.data, e.failedCall⟩) top.2
  · rfl

theorem foldl_readEvent (events : List HostEvent) (s : Forest.Parse FnCall FnReturn) :
    events.foldl readEvent (parserOf s) =
      parserOf ((events.filterMap HostEvent.mark).foldl Forest.Parse.step s) := by
  induction events generalizing s with
  | nil => rfl
  | cons e events ih =>
      rw [List.foldl_cons, readEvent_parserOf, ih]
      cases mark : e.mark with
      | none => rw [List.filterMap_cons_none mark]; rfl
      | some m => rw [List.filterMap_cons_some mark]; rfl

/-- Draining the stack closes the open calls. -/
theorem drain_parserOf (stack : List (FnCall × Forest FnCall FnReturn))
    (roots inner : Forest FnCall FnReturn) :
    drain (parserOf (Forest.Parse.attach ⟨stack, roots⟩ inner)) =
      frames (Forest.Parse.closeAll stack roots inner) := by
  induction stack generalizing inner with
  | nil => exact drain_nil _
  | cons top stack ih =>
      have trapped := attach_parserOf ⟨stack, roots⟩ top.1 none (top.2 ++ inner)
      rw [Forest.Parse.closeAll, ← ih, ← trapped]
      exact drain_cons _ _ _

/-- **The trace is the parse of the log.** -/
theorem Trace.fromEvents_eq (events : List HostEvent) :
    Trace.fromEvents events = ⟨frames (Forest.parse (events.filterMap HostEvent.mark))⟩ := by
  have read := foldl_readEvent events ⟨[], .nil⟩
  have drained (s : Forest.Parse FnCall FnReturn) : drain (parserOf s) = frames s.close := by
    have closed := drain_parserOf s.stack s.roots .nil
    rwa [Forest.Parse.attach_nil] at closed
  have start : parserOf ⟨[], .nil⟩ = ⟨[], []⟩ := rfl
  rw [Trace.fromEvents, ← start, read, drained, Forest.parse]

end SorobanFork
