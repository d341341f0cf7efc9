import SorobanFork.TraceDisplay

/-!
# Authorization trees (`auth_tree.rs`)

The host records a payload for each signer, with the tree of invocations that the
signer is to authorize.  The tree is printed with a line for each payload and, inside
it, a line for each invocation.

`printed_trees_show_iff` puts traces and authorization trees together.  Both are
readable as long as no text in them has a line break: the code prints the texts of
strings, symbols and names as they are, so a line break in one of them is one in the
tree (`string_draws_a_frame`).
-/

namespace SorobanFork

open Lib

inductive SorobanAuthorizedFunction : Type
  | contractFn (args : InvokeContractArgs)
  | createContractHostFn (xdr : Bytes)
  | createContractV2HostFn (xdr : Bytes)
deriving DecidableEq

structure SorobanAuthorizedInvocation : Type where
  function : SorobanAuthorizedFunction
  subInvocations : List SorobanAuthorizedInvocation

structure RecordedAuthPayload : Type where
  /-- `none` for the source account. -/
  address : Option ScAddress
  nonce : Option Int64
  invocation : SorobanAuthorizedInvocation

structure AuthTree : Type where
  payloads : List RecordedAuthPayload

/-! ## Counting -/

mutual

def countInvocations : SorobanAuthorizedInvocation → Nat
  | ⟨_, subInvocations⟩ => 1 + countAllInvocations subInvocations

/-- The sum over a vector of invocations. -/
def countAllInvocations : List SorobanAuthorizedInvocation → Nat
  | [] => 0
  | inv :: invs => countInvocations inv + countAllInvocations invs

end

def AuthTree.payloadCount (tree : AuthTree) : Nat := tree.payloads.length

def AuthTree.invocationCount (tree : AuthTree) : Nat :=
  (tree.payloads.map fun p => countInvocations p.invocation).sum

/-! ## Display -/

section Display

variable (texts : DisplayTexts)

/-- The line of a contract call, after its padding. -/
def renderContractFn (args : InvokeContractArgs) : String :=
  "[" ++ renderAddress texts args.contractAddress ++ "] " ++
    (fromUtf8 args.functionName).getD "<non-utf8>" ++ "(" ++
      ", ".intercalate (renderScvals texts args.args) ++ ")"

/-- The line of an invocation. -/
def functionHead : SorobanAuthorizedFunction → String
  | .contractFn args => renderContractFn texts args
  | .createContractHostFn _ => "<create_contract>"
  | .createContractV2HostFn _ => "<create_contract_v2>"

/-- The line of a payload. -/
def payloadHead (idx : Nat) (payload : RecordedAuthPayload) : String :=
  "payload #" ++ toString idx ++ "  signer=" ++
    (match payload.address with
      | some addr => renderAddress texts addr
      | none => "<source account>") ++
    match payload.nonce with
      | some n => "  nonce=" ++ toString n.toInt
      | none => ""

mutual

def renderInvocation (depth : Nat) : SorobanAuthorizedInvocation → String
  | ⟨function, subInvocations⟩ =>
    indentation depth ++ functionHead texts function ++ "\n" ++
      renderInvocations (depth + 1) subInvocations

/-- The invocations of a vector, one after another. -/
def renderInvocations (depth : Nat) : List SorobanAuthorizedInvocation → String
  | [] => ""
  | inv :: invs => renderInvocation depth inv ++ renderInvocations depth invs

end

def renderPayload (idx : Nat) (payload : RecordedAuthPayload) : String :=
  indentation 1 ++ payloadHead texts idx payload ++ "\n" ++
    renderInvocation texts 2 payload.invocation

/-- The payloads from number `idx` on. -/
def renderPayloads (idx : Nat) : List RecordedAuthPayload → String
  | [] => ""
  | payload :: payloads => renderPayload texts idx payload ++ renderPayloads (idx + 1) payloads

/-- `Display for AuthTree`. -/
def AuthTree.display (tree : AuthTree) : String :=
  if tree.payloads.isEmpty then
    "[AUTH] (empty — has invoke_contract run yet, and did it demand any auth?)\n"
  else "[AUTH]\n" ++ renderPayloads texts 0 tree.payloads

/-! ## The outline of a tree -/

mutual

def invocationOutline : SorobanAuthorizedInvocation → Outline (List Char)
  | ⟨function, subInvocations⟩ =>
    .cons (functionHead texts function).toList (invocationsOutline subInvocations) .nil

def invocationsOutline : List SorobanAuthorizedInvocation → Outline (List Char)
  | [] => .nil
  | inv :: invs => invocationOutline inv ++ invocationsOutline invs

end

def payloadsOutline (idx : Nat) : List RecordedAuthPayload → Outline (List Char)
  | [] => .nil
  | payload :: payloads =>
    .cons (payloadHead texts idx payload).toList (invocationOutline texts payload.invocation)
      (payloadsOutline (idx + 1) payloads)

def AuthTree.outline (tree : AuthTree) : Outline (List Char) :=
  payloadsOutline texts 0 tree.payloads

end Display

/-- The texts that an invocation's line shows have no line break. -/
def SorobanAuthorizedFunction.NoBreak : SorobanAuthorizedFunction → Prop
  | .contractFn args =>
    (∀ name, fromUtf8 args.functionName = some name → SorobanFork.NoBreak name) ∧
      NoBreaks args.args
  | _ => True

mutual

def SorobanAuthorizedInvocation.NoBreak : SorobanAuthorizedInvocation → Prop
  | ⟨function, subInvocations⟩ => function.NoBreak ∧ InvocationsNoBreak subInvocations

def InvocationsNoBreak : List SorobanAuthorizedInvocation → Prop
  | [] => True
  | inv :: invs => inv.NoBreak ∧ InvocationsNoBreak invs

end

def AuthTree.NoBreak (tree : AuthTree) : Prop :=
  ∀ payload ∈ tree.payloads, payload.invocation.NoBreak

/-! ## The text of a tree -/

section

variable (texts : DisplayTexts)

mutual

/-- **An invocation** is printed as its outline is drawn. -/
theorem toList_renderInvocation (depth : Nat) : ∀ inv : SorobanAuthorizedInvocation,
    (renderInvocation texts depth inv).toList =
      unlines '\n' ((invocationOutline texts inv).drawn ' ' 2 depth)
  | ⟨function, subInvocations⟩ => by
      have none : unlines '\n' ((Outline.nil : Outline (List Char)).drawn ' ' 2 depth) = [] := rfl
      rw [renderInvocation, invocationOutline, Outline.drawn_cons]
      simp only [String.toList_append, toList_indentation,
        toList_renderInvocations (depth + 1) subInvocations, unlines_cons, unlines_append,
        List.append_assoc]
      rw [none, List.append_nil]
      rfl

theorem toList_renderInvocations (depth : Nat) : ∀ invs : List SorobanAuthorizedInvocation,
    (renderInvocations texts depth invs).toList =
      unlines '\n' ((invocationsOutline texts invs).drawn ' ' 2 depth)
  | [] => rfl
  | inv :: invs => by
      rw [renderInvocations, invocationsOutline, Outline.drawn_append, unlines_append,
        String.toList_append, toList_renderInvocation depth inv,
        toList_renderInvocations depth invs]

end

theorem toList_renderPayloads (idx : Nat) (payloads : List RecordedAuthPayload) :
    (renderPayloads texts idx payloads).toList =
      unlines '\n' ((payloadsOutline texts idx payloads).drawn ' ' 2 1) := by
  induction payloads generalizing idx with
  | nil => rfl
  | cons payload payloads ih =>
      rw [renderPayloads, payloadsOutline, Outline.drawn_cons, renderPayload]
      simp only [String.toList_append, toList_indentation, toList_renderInvocation, ih,
        unlines_cons, unlines_append, List.append_assoc]
      rfl

mutual

theorem size_invocationOutline : ∀ inv : SorobanAuthorizedInvocation,
    (invocationOutline texts inv).size = countInvocations inv
  | ⟨function, subInvocations⟩ => by
      rw [invocationOutline, Outline.size, size_invocationsOutline subInvocations,
        countInvocations]
      rfl

theorem size_invocationsOutline : ∀ invs : List SorobanAuthorizedInvocation,
    (invocationsOutline texts invs).size = countAllInvocations invs
  | [] => rfl
  | inv :: invs => by
      rw [invocationsOutline, Outline.size_append, size_invocationOutline inv,
        size_invocationsOutline invs, countAllInvocations]

end

/-- A line for each payload and for each invocation. -/
theorem size_payloadsOutline (idx : Nat) (payloads : List RecordedAuthPayload) :
    (payloadsOutline texts idx payloads).size =
      payloads.length + (payloads.map fun p => countInvocations p.invocation).sum := by
  induction payloads generalizing idx with
  | nil => rfl
  | cons payload payloads ih =>
      rw [payloadsOutline, Outline.size, size_invocationOutline, ih, List.length_cons,
        List.map_cons, List.sum_cons]
      omega

theorem noBreak_functionHead (function : SorobanAuthorizedFunction) :
    NoBreak (functionHead texts function) ↔ function.NoBreak := by
  cases function with
  | contractFn args =>
      have name := @noBreak_fromUtf8_getD args.functionName "<non-utf8>" (by decide)
      have marks : NoBreak "[" ∧ NoBreak "] " ∧ NoBreak "(" ∧ NoBreak ")" :=
        ⟨by decide, by decide, by decide, by decide⟩
      rw [functionHead, renderContractFn]
      simp only [noBreak_append, noBreak_intercalate, noBreaks_renderScvals,
        noBreak_renderAddress, name, marks, true_and, and_true]
      rfl
  | createContractHostFn xdr => exact iff_of_true (by decide : NoBreak "<create_contract>") trivial
  | createContractV2HostFn xdr =>
      exact iff_of_true (by decide : NoBreak "<create_contract_v2>") trivial

theorem noBreak_payloadHead (idx : Nat) (payload : RecordedAuthPayload) :
    NoBreak (payloadHead texts idx payload) := by
  obtain ⟨address, nonce, invocation⟩ := payload
  rw [payloadHead]
  simp only [noBreak_append]
  refine ⟨⟨⟨⟨by decide, noBreak_nat idx⟩, by decide⟩, ?_⟩, ?_⟩
  · cases address with
    | none => exact (by decide : NoBreak "<source account>")
    | some addr => exact noBreak_renderAddress texts addr
  · cases nonce with
    | none => exact (by decide : NoBreak "")
    | some n => exact noBreak_append.mpr ⟨by decide, noBreak_int _⟩

mutual

theorem all_noBreak_invocationOutline : ∀ inv : SorobanAuthorizedInvocation,
    ((invocationOutline texts inv).All fun label => '\n' ∉ label) ↔ inv.NoBreak
  | ⟨function, subInvocations⟩ => by
      have head : '\n' ∉ (functionHead texts function).toList ↔ function.NoBreak :=
        noBreak_functionHead texts function
      rw [invocationOutline, Outline.All, all_noBreak_invocationsOutline subInvocations, head,
        Outline.All, and_true, SorobanAuthorizedInvocation.NoBreak]

theorem all_noBreak_invocationsOutline : ∀ invs : List SorobanAuthorizedInvocation,
    ((invocationsOutline texts invs).All fun label => '\n' ∉ label) ↔ InvocationsNoBreak invs
  | [] => Iff.rfl
  | inv :: invs => by
      rw [invocationsOutline, Outline.all_append, all_noBreak_invocationOutline inv,
        all_noBreak_invocationsOutline invs, InvocationsNoBreak]

end

theorem all_noBreak_payloadsOutline (idx : Nat) (payloads : List RecordedAuthPayload) :
    ((payloadsOutline texts idx payloads).All fun label => '\n' ∉ label) ↔
      ∀ payload ∈ payloads, payload.invocation.NoBreak := by
  induction payloads generalizing idx with
  | nil => exact iff_of_true trivial nofun
  | cons payload payloads ih =>
      have head : '\n' ∉ (payloadHead texts idx payload).toList :=
        noBreak_payloadHead texts idx payload
      rw [payloadsOutline, Outline.All, all_noBreak_invocationOutline, ih, and_iff_right head,
        List.forall_mem_cons]

theorem starts_functionHead (function : SorobanAuthorizedFunction) :
    (functionHead texts function).toList.head? ≠ some ' ' := by
  cases function with
  | contractFn args =>
      rw [functionHead, renderContractFn]
      simp only [String.append_assoc]
      exact starts_of_append (c := '[') rfl (by decide)
  | createContractHostFn xdr => exact (by decide : "<create_contract>".toList.head? ≠ some ' ')
  | createContractV2HostFn xdr =>
      exact (by decide : "<create_contract_v2>".toList.head? ≠ some ' ')

mutual

theorem all_starts_invocationOutline : ∀ inv : SorobanAuthorizedInvocation,
    (invocationOutline texts inv).All fun label => label.head? ≠ some ' '
  | ⟨function, subInvocations⟩ => by
      rw [invocationOutline]
      exact ⟨starts_functionHead texts function, all_starts_invocationsOutline subInvocations,
        trivial⟩

theorem all_starts_invocationsOutline : ∀ invs : List SorobanAuthorizedInvocation,
    (invocationsOutline texts invs).All fun label => label.head? ≠ some ' '
  | [] => trivial
  | inv :: invs => by
      rw [invocationsOutline, Outline.all_append]
      exact ⟨all_starts_invocationOutline inv, all_starts_invocationsOutline invs⟩

end

theorem all_starts_payloadsOutline (idx : Nat) (payloads : List RecordedAuthPayload) :
    (payloadsOutline texts idx payloads).All fun label => label.head? ≠ some ' ' := by
  induction payloads generalizing idx with
  | nil => exact trivial
  | cons payload payloads ih =>
      rw [payloadsOutline]
      refine ⟨?_, all_starts_invocationOutline texts payload.invocation, ih (idx + 1)⟩
      rw [payloadHead]
      simp only [String.append_assoc]
      exact starts_of_append (c := 'p') rfl (by decide)

/-- **An authorization tree** shows its invocations if and only if no text in it has a
line break. -/
theorem AuthTree.printsOutline_iff (tree : AuthTree) (nonempty : tree.payloads ≠ []) :
    PrintsOutline (tree.display texts) "[AUTH]" (tree.payloadCount + tree.invocationCount)
      (tree.outline texts) ↔ tree.NoBreak := by
  have drawing : (tree.display texts).toList =
      unlines '\n' ("[AUTH]".toList :: (tree.outline texts).drawn ' ' 2 1) := by
    rw [AuthTree.display, if_neg (mt List.isEmpty_iff.mp nonempty), String.toList_append,
      toList_renderPayloads, unlines_cons]
    rfl
  exact (SorobanFork.printsOutline_iff drawing (by decide)
    (size_payloadsOutline texts 0 tree.payloads)
    (all_starts_payloadsOutline texts 0 tree.payloads)).trans
      (all_noBreak_payloadsOutline texts 0 tree.payloads)

end

/-- **Readable trees.**  A trace with a root, and an authorization tree with a payload,
prints a line for each call and its result, or for each payload and invocation, and
its shape can be read back from the indentation, if and only if no text that it shows
has a line break. -/
theorem printed_trees_show_iff (texts : DisplayTexts) :
    (∀ trace : Trace, trace.roots ≠ [] →
      (PrintsOutline (trace.display texts) "[TRACE]" (2 * trace.frameCount)
        (trace.outline texts) ↔ trace.NoBreak)) ∧
    ∀ tree : AuthTree, tree.payloads ≠ [] →
      (PrintsOutline (tree.display texts) "[AUTH]" (tree.payloadCount + tree.invocationCount)
        (tree.outline texts) ↔ tree.NoBreak) :=
  ⟨Trace.printsOutline_iff texts, AuthTree.printsOutline_iff texts⟩

/-! ## A string that draws a frame -/

namespace Sample

/-- The strkeys of the contract and the account whose bytes are all zero. -/
def zeroStrkeys : DisplayTexts where
  accountStrkey _ := "GAAAAAAAAAAAAAAAAAAAAAAAAAAAAAAAAAAAAAAAAAAAAAAAAAAAAWHF"
  contractStrkey _ := "CAAAAAAAAAAAAAAAAAAAAAAAAAAAAAAAAAAAAAAAAAAAAAAAAAAABSC4"
  debugScval _ := "LedgerKeyContractInstance"
  debugScAddress _ := "MuxedAccount"
  noBreak_accountStrkey _ := by decide
  noBreak_contractStrkey _ := by decide
  noBreak_debugScval _ _ := by decide
  noBreak_debugScAddress _ _ := by decide

/-- A call that returned nothing. -/
def callOf (function : String) (args : List ScVal) (children : List TraceFrame) : TraceFrame :=
  ⟨zeroBytes32, function, args, .returned .void, false, children⟩

/-- A call of `log` with a text. -/
def logging (text : String) : Trace := ⟨[callOf "log" [.string (utf8 text)] []]⟩

/-- An invocation of `log` with a text, with others inside it. -/
def logInvocation (text : String) (subInvocations : List SorobanAuthorizedInvocation) :
    SorobanAuthorizedInvocation :=
  ⟨.contractFn ⟨.contract zeroBytes32, utf8 "log", [.string (utf8 text)]⟩, subInvocations⟩

/-- The authorization of an invocation by the source account. -/
def authorizing (invocation : SorobanAuthorizedInvocation) : AuthTree :=
  ⟨[⟨none, none, invocation⟩]⟩

end Sample

open Sample in
theorem printed_trees_show_iff_nested :
    let trace : Trace := ⟨[callOf "deposit" [.map (some [(.symbol (utf8 "memo"), .void)])]
      [callOf "log" [.string (utf8 "a b")] []]]⟩
    let tree := authorizing (logInvocation "a b" [logInvocation "c" []])
    PrintsOutline (trace.display zeroStrkeys) "[TRACE]" (2 * trace.frameCount)
        (trace.outline zeroStrkeys) ∧
      PrintsOutline (tree.display zeroStrkeys) "[AUTH]"
        (tree.payloadCount + tree.invocationCount) (tree.outline zeroStrkeys) := by
  intro trace tree
  have text {s : String} (plain : NoBreak s) (t : String) (decodes : fromUtf8 (utf8 s) = some t) :
      NoBreak t := by
    rw [fromUtf8_eq_some.mpr rfl] at decodes
    exact Option.some.inj decodes ▸ plain
  have memo : trace.NoBreak :=
    ⟨⟨by decide, ⟨⟨⟨text (by decide), trivial⟩, trivial⟩, trivial⟩,
      ⟨⟨by decide, ⟨text (by decide), trivial⟩, trivial, trivial⟩, trivial⟩, trivial⟩, trivial⟩
  have logged : tree.NoBreak := by
    refine List.forall_mem_singleton.mpr ⟨⟨text (by decide), text (by decide), trivial⟩, ?_⟩
    exact ⟨⟨⟨text (by decide), text (by decide), trivial⟩, trivial⟩, trivial⟩
  obtain ⟨ofTrace, ofTree⟩ := printed_trees_show_iff zeroStrkeys
  exact ⟨(ofTrace trace (List.cons_ne_nil _ _)).mpr memo,
    (ofTree tree (List.cons_ne_nil _ _)).mpr logged⟩

open Sample in
/-- One call, and a text that draws a second one inside it. -/
theorem string_draws_a_frame :
    let forged := "a\n    [CAAA…BSC4] drain()\n      ← ()"
    let tree := authorizing (logInvocation forged [])
    (logging forged).display zeroStrkeys =
      "[TRACE]\n  [CAAA…BSC4] log(\"a\n    [CAAA…BSC4] drain()\n      ← ()\")\n    ← ()\n" ∧
    ¬PrintsOutline ((logging forged).display zeroStrkeys) "[TRACE]"
      (2 * (logging forged).frameCount) ((logging forged).outline zeroStrkeys) ∧
    ¬PrintsOutline (tree.display zeroStrkeys) "[AUTH]" (tree.payloadCount + tree.invocationCount)
      (tree.outline zeroStrkeys) := by
  intro forged tree
  have decodes : fromUtf8 (utf8 forged) = some forged := fromUtf8_eq_some.mpr rfl
  have broken : ¬NoBreak forged := by decide
  refine ⟨?_, ?_, ?_⟩
  · have value : renderScval zeroStrkeys (.string (utf8 forged)) = "\"" ++ forged ++ "\"" := by
      rw [renderScval_string, decodes]
    have line : renderFrames zeroStrkeys 1 (logging forged).roots =
        indentation 1 ++ ("[" ++ abbreviateStrkey (zeroStrkeys.contractStrkey zeroBytes32) ++
          "] " ++ "log" ++ "(" ++
            ", ".intercalate [renderScval zeroStrkeys (.string (utf8 forged))] ++ ")" ++ "") ++
          "\n" ++ "" ++ indentation 2 ++ "← ()" ++ "\n" ++ "" := rfl
    rw [Trace.display, if_neg (by decide), line, value]
    decide +kernel
  · rw [Trace.printsOutline_iff zeroStrkeys (logging forged) (List.cons_ne_nil _ _)]
    rintro ⟨⟨-, ⟨shown, -⟩, -⟩, -⟩
    exact broken (shown forged decodes)
  · rw [AuthTree.printsOutline_iff zeroStrkeys tree (List.cons_ne_nil _ _)]
    intro plain
    obtain ⟨⟨-, ⟨shown, -⟩⟩, -⟩ := plain _ (.head _)
    exact broken (shown forged decodes)

end SorobanFork
