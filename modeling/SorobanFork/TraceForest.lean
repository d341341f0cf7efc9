import SorobanFork.Trace

/-!
# Traces of call forests

Which forests of calls does `Trace::from_events` rebuild from the diagnostic
stream of the host?  `hostEvents` is the stream of a forest, `MixedIn` a stream
with other events mixed in, and `fromEvents_eq_iff` the answer: those in which a
call that trapped is the last one of its caller, which trapped as well.
-/

namespace SorobanFork

open Lib

/-! ## The stream of the host -/

/-- `fn_call`: the contract of the event is the caller. -/
def FnCall.event (caller : Option Hash) (call : FnCall) : HostEvent where
  event :=
    { contractId := caller
      type := .diagnostic
      topics := [.symbol (utf8 "fn_call"), .bytes call.contract.toList,
        .symbol (utf8 call.function)]
      data := call.data }
  failedCall := call.failed

/-- `fn_return`: the contract and the function are those of the call. -/
def FnReturn.event (call : FnCall) (ret : FnReturn) : HostEvent where
  event :=
    { contractId := some call.contract
      type := .diagnostic
      topics := [.symbol (utf8 "fn_return"), .symbol (utf8 call.function)]
      data := ret.value }
  failedCall := ret.failed

/-- The events of calls made by `caller`, in the order of time. -/
def hostEvents (caller : Option Hash) : Forest FnCall FnReturn → List HostEvent
  | .nil => []
  | .cons call leave calls rest =>
    call.event caller :: (hostEvents (some call.contract) calls ++
      ((leave.map (FnReturn.event call)).toList ++ hostEvents caller rest))

/-- No contract is called again while a call of it is open; `path` are the open ones. -/
def NoReentry (path : List Hash) : Forest FnCall FnReturn → Prop
  | .nil => True
  | .cons call _ calls rest =>
    call.contract ∉ path ∧ NoReentry (call.contract :: path) calls ∧ NoReentry path rest

/-- A well-formed `fn_call`. -/
def HostEvent.IsFnCall (e : HostEvent) : Prop :=
  e.event.type = .diagnostic ∧ ∃ (callee : Hash) (function : String) (others : List ScVal),
    e.event.topics = .symbol (utf8 "fn_call") :: .bytes callee.toList ::
      .symbol (utf8 function) :: others

def HostEvent.IsFnReturn (e : HostEvent) : Prop :=
  e.event.type = .diagnostic ∧ e.event.topics.head? = some (.symbol (utf8 "fn_return"))

/-- `all` is `events` with other events mixed in. -/
inductive MixedIn : List HostEvent → List HostEvent → Prop
  | nil : MixedIn [] []
  | keep (e : HostEvent) {events all : List HostEvent} (rest : MixedIn events all) :
      MixedIn (e :: events) (e :: all)
  | other {e : HostEvent} {events all : List HostEvent} (notCall : ¬e.IsFnCall)
      (notReturn : ¬e.IsFnReturn) (rest : MixedIn events all) : MixedIn events (e :: all)

/-! ## The log in the stream -/

theorem scvalAsSymbolStr_eq_some {v : ScVal} {s : String} :
    scvalAsSymbolStr v = some s ↔ v = .symbol (utf8 s) := by
  cases v with
  | symbol bytes => simp only [scvalAsSymbolStr, fromUtf8_eq_some, ScVal.symbol.injEq]
  | _ => simp only [scvalAsSymbolStr, reduceCtorEq]

theorem scvalAsContract_eq_some {v : ScVal} {contract : Hash} :
    scvalAsContract v = some contract ↔ v = .bytes contract.toList := by
  cases v with
  | bytes b =>
      by_cases length : b.length = 32
      · rw [scvalAsContract, dif_pos length]
        constructor
        · intro decodes
          have same : (⟨b, length⟩ : Hash) = contract := Option.some.inj decodes
          rw [← same]
          rfl
        · intro same
          obtain rfl : b = contract.toList := ScVal.bytes.inj same
          rfl
      · rw [scvalAsContract, dif_neg length]
        constructor
        · intro impossible
          cases impossible
        · intro same
          cases same
          exact absurd contract.toList_length length
  | _ => simp only [scvalAsContract, reduceCtorEq]

theorem FnCall.ofTopics_eq_some {topics : List ScVal} {data : ScVal} {failed : Bool}
    {call : FnCall} (parsed : FnCall.ofTopics topics data failed = some call) :
    (∃ kind others, topics = kind :: .bytes call.contract.toList ::
      .symbol (utf8 call.function) :: others) ∧ data = call.data ∧ failed = call.failed := by
  match topics with
  | kind :: callee :: name :: others =>
      simp only [FnCall.ofTopics, Option.bind_eq_bind, Option.bind_eq_some_iff, Option.pure_def,
        Option.some.injEq] at parsed
      obtain ⟨contract, callee_eq, function, name_eq, rfl⟩ := parsed
      rw [scvalAsContract_eq_some.mp callee_eq, scvalAsSymbolStr_eq_some.mp name_eq]
      exact ⟨⟨kind, others, rfl⟩, rfl, rfl⟩

theorem HostEvent.kind_eq_some {e : HostEvent} {s : String} :
    e.kind = some s ↔ e.event.topics.head? = some (.symbol (utf8 s)) := by
  rw [kind, Option.bind_eq_some_iff]
  simp only [scvalAsSymbolStr_eq_some]
  simp

/-- Which events are well-formed `fn_call`s, and of which call they tell. -/
theorem HostEvent.mark_eq_enter {e : HostEvent} {call : FnCall} :
    e.mark = some (.enter call) ↔
      e.event.type = .diagnostic ∧
      (∃ others, e.event.topics = .symbol (utf8 "fn_call") :: .bytes call.contract.toList ::
        .symbol (utf8 call.function) :: others) ∧
      e.event.data = call.data ∧ e.failedCall = call.failed := by
  constructor
  · intro marked
    rw [mark] at marked
    split at marked
    · cases marked
    · rename_i diagnostic
      split at marked
      · rename_i kind
        obtain ⟨parsedCall, parsed, same⟩ := Option.map_eq_some_iff.mp marked
        cases same
        obtain ⟨⟨first, others, topics⟩, data, failed⟩ := FnCall.ofTopics_eq_some parsed
        have named := HostEvent.kind_eq_some.mp kind
        rw [topics, List.head?_cons] at named
        cases named
        exact ⟨not_not.mp diagnostic, ⟨others, topics⟩, data, failed⟩
      · cases marked
      · cases marked
  · rintro ⟨diagnostic, ⟨others, topics⟩, data, failed⟩
    have kind : e.kind = some "fn_call" := HostEvent.kind_eq_some.mpr (by rw [topics]; rfl)
    have contract : scvalAsContract (.bytes call.contract.toList) = some call.contract :=
      scvalAsContract_eq_some.mpr rfl
    have name : scvalAsSymbolStr (.symbol (utf8 call.function)) = some call.function :=
      scvalAsSymbolStr_eq_some.mpr rfl
    rw [mark, kind, if_neg (not_not.mpr diagnostic), topics, data, failed]
    simp only [FnCall.ofTopics, contract, name]
    rfl

/-- Which events are `fn_return`s, and of which return they tell. -/
theorem HostEvent.mark_eq_leave {e : HostEvent} {ret : FnReturn} :
    e.mark = some (.leave ret) ↔
      e.event.type = .diagnostic ∧
      (∃ others, e.event.topics = .symbol (utf8 "fn_return") :: others) ∧
      e.event.data = ret.value ∧ e.failedCall = ret.failed := by
  constructor
  · intro marked
    rw [mark] at marked
    split at marked
    · cases marked
    · rename_i diagnostic
      split at marked
      · obtain ⟨_, -, impossible⟩ := Option.map_eq_some_iff.mp marked
        cases impossible
      · rename_i kind
        cases marked
        exact ⟨not_not.mp diagnostic, List.head?_eq_some_iff.mp (HostEvent.kind_eq_some.mp kind),
          rfl, rfl⟩
      · cases marked
  · rintro ⟨diagnostic, ⟨others, topics⟩, data, failed⟩
    have kind : e.kind = some "fn_return" := HostEvent.kind_eq_some.mpr (by rw [topics]; rfl)
    rw [mark, kind, if_neg (not_not.mpr diagnostic), data, failed]
    rfl

/-- Only well-formed `fn_call`s and `fn_return`s are marks. -/
theorem HostEvent.isFn_of_mark {e : HostEvent} {m : Mark FnCall FnReturn}
    (marked : e.mark = some m) :
    (∃ call, m = .enter call ∧ e.IsFnCall) ∨ ∃ ret, m = .leave ret ∧ e.IsFnReturn := by
  cases m with
  | enter call =>
      obtain ⟨diagnostic, ⟨others, topics⟩, -⟩ := HostEvent.mark_eq_enter.mp marked
      exact .inl ⟨call, rfl, diagnostic, call.contract, call.function, others, topics⟩
  | leave ret =>
      obtain ⟨diagnostic, ⟨others, topics⟩, -⟩ := HostEvent.mark_eq_leave.mp marked
      exact .inr ⟨ret, rfl, diagnostic, List.head?_eq_some_iff.mpr ⟨others, topics⟩⟩

theorem HostEvent.mark_eq_none {e : HostEvent} (notCall : ¬e.IsFnCall)
    (notReturn : ¬e.IsFnReturn) : e.mark = none := by
  rcases marked : e.mark with _ | m
  · rfl
  · rcases HostEvent.isFn_of_mark marked with ⟨_, _, isCall⟩ | ⟨_, _, isReturn⟩
    · exact absurd isCall notCall
    · exact absurd isReturn notReturn

theorem FnCall.mark_event (caller : Option Hash) (call : FnCall) :
    (call.event caller).mark = some (.enter call) :=
  HostEvent.mark_eq_enter.mpr ⟨rfl, ⟨_, rfl⟩, rfl, rfl⟩

theorem FnReturn.mark_event (call : FnCall) (ret : FnReturn) :
    (FnReturn.event call ret).mark = some (.leave ret) :=
  HostEvent.mark_eq_leave.mpr ⟨rfl, ⟨_, rfl⟩, rfl, rfl⟩

/-- The marks of the stream are the log of the forest. -/
theorem filterMap_hostEvents (caller : Option Hash) (forest : Forest FnCall FnReturn) :
    (hostEvents caller forest).filterMap HostEvent.mark = forest.marks := by
  induction forest generalizing caller with
  | nil => rfl
  | cons call leave calls rest ihCalls ihRest =>
      have own : (leave.map (FnReturn.event call)).toList.filterMap HostEvent.mark =
          (leave.map Mark.leave).toList := by
        cases leave with
        | none => rfl
        | some ret =>
            rw [Option.map_some, Option.toList_some,
              List.filterMap_cons_some (FnReturn.mark_event call ret)]
            rfl
      rw [hostEvents, List.filterMap_cons_some (call.mark_event caller), List.filterMap_append,
        List.filterMap_append, ihCalls, own, ihRest, Forest.marks]

theorem MixedIn.filterMap_mark {events all : List HostEvent} (mixed : MixedIn events all) :
    all.filterMap HostEvent.mark = events.filterMap HostEvent.mark := by
  induction mixed with
  | nil => rfl
  | keep e _ ih =>
      rw [← List.singleton_append, List.filterMap_append, ih, ← List.filterMap_append,
        List.singleton_append]
  | other notCall notReturn _ ih =>
      rw [List.filterMap_cons_none (HostEvent.mark_eq_none notCall notReturn), ih]

/-! ## When the trace is faithful -/

theorem FnCall.isSome_of_frame_eq {call call' : FnCall} {leave leave' : Option FnReturn}
    {children children' : List TraceFrame}
    (same : call.frame leave children = call'.frame leave' children') :
    leave.isSome = leave'.isSome := by
  have results := congrArg TraceFrame.result same
  cases leave with
  | none =>
      cases leave' with
      | none => rfl
      | some ret => cases results
  | some ret =>
      cases leave' with
      | none => cases results
      | some ret' => rfl

/-- The frames show which calls came back. -/
theorem finished_of_frames_eq {f g : Forest FnCall FnReturn} (same : frames f = frames g)
    (finished : f.Finished) : g.Finished := by
  induction g generalizing f with
  | nil => trivial
  | cons call leave calls rest ihCalls ihRest =>
      cases f with
      | nil => cases same
      | cons call' leave' calls' rest' =>
          obtain ⟨left, callsFinished, restFinished⟩ := finished
          obtain ⟨head, tail⟩ := List.cons.inj same
          refine ⟨?_, ihCalls (congrArg TraceFrame.children head) callsFinished,
            ihRest tail restFinished⟩
          rwa [← FnCall.isSome_of_frame_eq head]

theorem openLast_of_frames_eq {f g : Forest FnCall FnReturn} (same : frames f = frames g)
    (openLast : f.OpenLast) : g.OpenLast := by
  induction g generalizing f with
  | nil => trivial
  | cons call leave calls rest ihCalls ihRest =>
      cases f with
      | nil => cases same
      | cons call' leave' calls' rest' =>
          obtain ⟨head, tail⟩ := List.cons.inj same
          have children : frames calls' = frames calls := congrArg TraceFrame.children head
          have left := FnCall.isSome_of_frame_eq head
          cases leave' with
          | some ret' =>
              obtain ⟨ret, rfl⟩ := Option.isSome_iff_exists.mp left.symm
              obtain ⟨callsFinished, restOpen⟩ := openLast
              exact ⟨finished_of_frames_eq children callsFinished, ihRest tail restOpen⟩
          | none =>
              obtain rfl : leave = none := Option.not_isSome_iff_eq_none.mp (by simp [← left])
              obtain ⟨callsOpen, rfl⟩ := openLast
              refine ⟨ihCalls children callsOpen, ?_⟩
              cases rest with
              | nil => rfl
              | cons => cases tail

/-- **When the trace is faithful.**  For every forest of calls and every stream
of it, the trace shows exactly these calls if and only if every call that
trapped is the last one of its caller, which trapped as well. -/
theorem fromEvents_eq_iff (forest : Forest FnCall FnReturn) {events : List HostEvent}
    (stream : MixedIn (hostEvents none forest) events) :
    Trace.fromEvents events = ⟨frames forest⟩ ↔ forest.OpenLast := by
  have log : events.filterMap HostEvent.mark = forest.marks := by
    rw [stream.filterMap_mark, filterMap_hostEvents]
  rw [Trace.fromEvents_eq, log]
  constructor
  · intro same
    exact openLast_of_frames_eq (congrArg Trace.roots same) (Forest.openLast_parse forest.marks)
  · intro openLast
    rw [Forest.parse_marks openLast]

/-! ## Two streams -/

namespace Sample

def fnCall (contract : UInt8) (function : String) : FnCall :=
  ⟨⟨List.replicate 32 contract, rfl⟩, function, .void, false⟩

/-- `deposit` calls `transfer`, which traps; it catches that and returns 5. -/
def caughtTrap : Forest FnCall FnReturn :=
  .cons (fnCall 1 "deposit") (some ⟨.u32 5, false⟩)
    (.cons (fnCall 2 "transfer") none .nil .nil) .nil

/-- `deposit` calls `balance`, which returns 7, and then `transfer`; both trap. -/
def trapToTheTop : Forest FnCall FnReturn :=
  .cons (fnCall 1 "deposit") none
    (.cons (fnCall 2 "balance") (some ⟨.u32 7, false⟩) .nil
      (.cons (fnCall 2 "transfer") none .nil .nil)) .nil

/-- An event of a contract with the topics of a `fn_call`. -/
def contractEvent : HostEvent :=
  { (fnCall 3 "evil").event none with
    event := { ((fnCall 3 "evil").event none).event with type := .contract } }

end Sample

open Sample in
/-- The return of `deposit` is taken for one of `transfer`, and `deposit` is
reported as trapped. -/
theorem caught_trap_moves_return :
    NoReentry [] caughtTrap ∧
      MixedIn (hostEvents none caughtTrap) (hostEvents none caughtTrap) ∧
      Trace.fromEvents (hostEvents none caughtTrap) =
        ⟨frames (.cons (fnCall 1 "deposit") none
          (.cons (fnCall 2 "transfer") (some ⟨.u32 5, false⟩) .nil .nil) .nil)⟩ ∧
      Trace.fromEvents (hostEvents none caughtTrap) ≠ ⟨frames caughtTrap⟩ := by
  have shown : Trace.fromEvents (hostEvents none caughtTrap) =
      ⟨frames (.cons (fnCall 1 "deposit") none
        (.cons (fnCall 2 "transfer") (some ⟨.u32 5, false⟩) .nil .nil) .nil)⟩ := by
    rw [Trace.fromEvents_eq, filterMap_hostEvents]
    rfl
  have noReentry : NoReentry [] caughtTrap := ⟨nofun, ⟨by decide, trivial, trivial⟩, trivial⟩
  refine ⟨noReentry, .keep _ (.keep _ (.keep _ .nil)), shown, ?_⟩
  rw [shown]
  intro same
  cases congrArg (fun trace => trace.roots.map TraceFrame.result) same

open Sample in
theorem fromEvents_eq_iff_trapToTheTop :
    Trace.fromEvents (contractEvent :: hostEvents none trapToTheTop) = ⟨frames trapToTheTop⟩ ↔
      trapToTheTop.OpenLast :=
  fromEvents_eq_iff trapToTheTop
    (.other (fun isCall => by cases isCall.1) (fun isReturn => by cases isReturn.1)
      (.keep _ (.keep _ (.keep _ (.keep _ .nil)))))

end SorobanFork
