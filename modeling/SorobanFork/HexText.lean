import SorobanFork.ErrorReplies

/-!
# Hashes as hex text

`sendTransaction` prints the hash of a transaction (`hexLower`), `getTransaction`
parses it (`parseHex32`).  The printer uses lower case and the parser takes either:
a text parses to a hash if and only if its pairs of digits spell the bytes
(`parseHex32_eq_some_iff`).  So a hash that was printed parses to itself, and the
text of a hash that was parsed is printed in lower case.
-/

namespace SorobanFork

open Lib

/-- The character is the hex digit of the number, in either case. -/
def HexDigit (c : Char) (n : Nat) : Prop :=
  n < 16 ∧ (c = Nat.digitChar n ∨ c = (Nat.digitChar n).toUpper)

instance (c : Char) (n : Nat) : Decidable (HexDigit c n) := inferInstanceAs (Decidable (_ ∧ _))

/-- The pairs of characters are the hex digits of the bytes, the high one first. -/
inductive Spells : List Char → Bytes → Prop
  | nil : Spells [] []
  | cons {c d : Char} {high low : Nat} {cs : List Char} {b : UInt8} {bytes : Bytes}
      (highDigit : HexDigit c high) (lowDigit : HexDigit d low)
      (value : b.toNat = 16 * high + low) (rest : Spells cs bytes) :
      Spells (c :: d :: cs) (b :: bytes)

/-! ## Digits -/

namespace HexDigit

variable {c : Char} {n : Nat}

theorem ascii (digit : HexDigit c n) : c.toNat < 128 := by
  have table : ∀ n : Fin 16, (Nat.digitChar n).toNat < 128 ∧
      (Nat.digitChar n).toUpper.toNat < 128 := by decide
  rcases digit.2 with rfl | rfl
  · exact (table ⟨n, digit.1⟩).1
  · exact (table ⟨n, digit.1⟩).2

theorem toLower (digit : HexDigit c n) : c.toLower = Nat.digitChar n := by
  have table : ∀ n : Fin 16, (Nat.digitChar n).toLower = Nat.digitChar n ∧
      (Nat.digitChar n).toUpper.toLower = Nat.digitChar n := by decide
  rcases digit.2 with rfl | rfl
  · exact (table ⟨n, digit.1⟩).1
  · exact (table ⟨n, digit.1⟩).2

end HexDigit

/-- The digit that is printed. -/
theorem hexDigit_eq {b : UInt8} (small : b.toNat < 16) : hexDigit b = Nat.digitChar b.toNat := by
  have table : ∀ n : Fin 16, hexDigit (UInt8.ofNat n) = Nat.digitChar n := by decide
  have digit := table ⟨b.toNat, small⟩
  rwa [UInt8.ofNat_toNat] at digit

/-- Digits are ASCII, and a nibble is small. -/
theorem lt_of_hexNibble {b v : UInt8} (digit : hexNibble b = some v) :
    b.toNat < 128 ∧ v.toNat < 16 := by
  have table : ∀ n : Fin 256, ∀ v ∈ hexNibble (UInt8.ofNat n), n.val < 128 ∧ v.toNat < 16 := by
    decide +kernel
  apply table ⟨b.toNat, b.toNat_lt⟩ v
  rwa [UInt8.ofNat_toNat]

/-- The parser knows the digits. -/
theorem hexNibble_eq_some_iff {c : Char} (ascii : c.toNat < 128) {v : UInt8} :
    hexNibble c.toUInt8 = some v ↔ HexDigit c v.toNat := by
  have table : ∀ c : Fin 128, ∀ n : Fin 16,
      hexNibble (Char.ofNat c).toUInt8 = some (UInt8.ofNat n) ↔ HexDigit (Char.ofNat c) n := by
    decide +kernel
  have entry (small : v.toNat < 16) := table ⟨c.toNat, ascii⟩ ⟨v.toNat, small⟩
  simp only [Char.ofNat_toNat, UInt8.ofNat_toNat] at entry
  exact ⟨fun digit => (entry (lt_of_hexNibble digit).2).mp digit,
    fun digit => (entry digit.1).mpr digit⟩

/-- Two nibbles side by side. -/
theorem toNat_nibbles {high low : UInt8} (highSmall : high.toNat < 16) (lowSmall : low.toNat < 16) :
    (high <<< 4 ||| low).toNat = 16 * high.toNat + low.toNat := by
  have table : ∀ h l : Fin 16,
      (UInt8.ofNat h <<< 4 ||| UInt8.ofNat l).toNat = 16 * h.val + l.val := by decide
  have entry := table ⟨high.toNat, highSmall⟩ ⟨low.toNat, lowSmall⟩
  rwa [UInt8.ofNat_toNat, UInt8.ofNat_toNat] at entry

/-! ## Texts -/

/-- The bytes of an ASCII text are its characters. -/
theorem utf8_of_ascii {s : String} (ascii : ∀ c ∈ s.toList, c.toNat < 128) :
    utf8 s = s.toList.map Char.toUInt8 := by
  have bytes (cs : List Char) (ascii : ∀ c ∈ cs, c.toNat < 128) :
      cs.flatMap String.utf8EncodeChar = cs.map Char.toUInt8 := by
    induction cs with
    | nil => rfl
    | cons c cs ih =>
        have one : c.utf8Size = 1 := by
          rw [Char.utf8Size_eq_one_iff, UInt32.le_iff_toNat_le]
          exact Nat.le_of_lt_succ (ascii c (.head _))
        rw [List.flatMap_cons, String.utf8EncodeChar_eq_singleton one, List.map_cons,
          ih fun c mem => ascii c (.tail _ mem)]
        rfl
  rw [utf8, ← bytes s.toList ascii, String.toUTF8_eq_toByteArray, ← String.utf8Encode_toList,
    List.utf8Encode, List.toList_data_toByteArray]

theorem Spells.ascii {cs : List Char} {bytes : Bytes} (spells : Spells cs bytes) :
    ∀ c ∈ cs, c.toNat < 128 := by
  induction spells with
  | nil => exact fun _ mem => absurd mem List.not_mem_nil
  | cons highDigit lowDigit _ _ ih =>
      exact List.forall_mem_cons.mpr
        ⟨highDigit.ascii, List.forall_mem_cons.mpr ⟨lowDigit.ascii, ih⟩⟩

/-- Parsing pairs of ASCII characters. -/
theorem parseHexPairs_map_iff {cs : List Char} (ascii : ∀ c ∈ cs, c.toNat < 128) {bytes : Bytes} :
    parseHexPairs (cs.map Char.toUInt8) = some bytes ↔ Spells cs bytes := by
  match cs with
  | [] =>
      constructor
      · intro parsed
        cases parsed
        exact .nil
      · intro spells
        cases spells
        rfl
  | [c] =>
      constructor
      · intro parsed
        cases parsed
      · intro spells
        cases spells
  | c :: d :: cs =>
      obtain ⟨highAscii, ascii⟩ := List.forall_mem_cons.mp ascii
      obtain ⟨lowAscii, ascii⟩ := List.forall_mem_cons.mp ascii
      simp only [List.map_cons, parseHexPairs, Option.bind_eq_bind, Option.bind_eq_some_iff,
        Option.pure_def, Option.some.injEq, hexNibble_eq_some_iff highAscii,
        hexNibble_eq_some_iff lowAscii, parseHexPairs_map_iff ascii]
      constructor
      · rintro ⟨high, highDigit, low, lowDigit, rest, spells, rfl⟩
        exact .cons highDigit lowDigit (toNat_nibbles highDigit.1 lowDigit.1) spells
      · intro spells
        cases spells with
        | @cons _ _ high low _ b _ highDigit lowDigit value rest =>
            have highNat : (UInt8.ofNat high).toNat = high :=
              UInt8.toNat_ofNat_of_lt' (Nat.lt_trans highDigit.1 (by decide))
            have lowNat : (UInt8.ofNat low).toNat = low :=
              UInt8.toNat_ofNat_of_lt' (Nat.lt_trans lowDigit.1 (by decide))
            refine ⟨UInt8.ofNat high, by rwa [highNat], UInt8.ofNat low, by rwa [lowNat], _,
              rest, ?_⟩
            congr 1
            apply UInt8.toNat_inj.mp
            rw [toNat_nibbles, highNat, lowNat, value]
            · rw [highNat]
              exact highDigit.1
            · rw [lowNat]
              exact lowDigit.1

/-- All bytes of a text that parses are ASCII. -/
theorem lt_of_mem_of_parseHexPairs {digits bytes : Bytes}
    (parsed : parseHexPairs digits = some bytes) : ∀ b ∈ digits, b.toNat < 128 := by
  induction digits using parseHexPairs.induct generalizing bytes with
  | case1 => exact fun _ mem => absurd mem List.not_mem_nil
  | case2 b => cases parsed
  | case3 a b rest ih =>
      simp only [parseHexPairs, Option.bind_eq_bind, Option.bind_eq_some_iff, Option.pure_def,
        Option.some.injEq] at parsed
      obtain ⟨high, highDigit, low, lowDigit, tail, tailParsed, -⟩ := parsed
      exact List.forall_mem_cons.mpr ⟨(lt_of_hexNibble highDigit).1,
        List.forall_mem_cons.mpr ⟨(lt_of_hexNibble lowDigit).1, ih tailParsed⟩⟩

theorem utf8_injective {s t : String} (same : utf8 s = utf8 t) : s = t := by
  have decoded : fromUtf8 (utf8 s) = some t := fromUtf8_eq_some.mpr same
  exact Option.some.inj ((fromUtf8_eq_some.mpr rfl).symm.trans decoded)

/-- A text of ASCII bytes is the text of the characters with these codes. -/
theorem ascii_of_utf8 {s : String} (ascii : ∀ b ∈ utf8 s, b.toNat < 128) :
    ∀ c ∈ s.toList, c.toNat < 128 := by
  have table : ∀ n : Fin 128, (Char.ofNat n).toNat = n ∧
      (Char.ofNat n).toUInt8 = UInt8.ofNat n := by decide
  have chars : ∀ c ∈ (utf8 s).map fun b => Char.ofNat b.toNat, c.toNat < 128 := by
    intro c mem
    obtain ⟨b, memBytes, rfl⟩ := List.mem_map.mp mem
    rw [(table ⟨b.toNat, ascii b memBytes⟩).1]
    exact ascii b memBytes
  have same : String.ofList ((utf8 s).map fun b => Char.ofNat b.toNat) = s := by
    apply utf8_injective
    rw [utf8_of_ascii (by rwa [String.toList_ofList]), String.toList_ofList, List.map_map]
    refine (List.map_congr_left fun b mem => ?_).trans (List.map_id _)
    exact (table ⟨b.toNat, ascii b mem⟩).2.trans UInt8.ofNat_toNat
  rw [← same, String.toList_ofList]
  exact chars

theorem parseHex32_eq_some {s : String} {hash : Hash} :
    parseHex32 s = some hash ↔ parseHexPairs (utf8 s) = some hash.toList := by
  unfold parseHex32
  constructor
  · intro parsed
    split at parsed
    · split at parsed
      · rename_i bytes pairs
        cases parsed
        exact pairs
      · cases parsed
    · cases parsed
  · intro pairs
    have long : (utf8 s).length = 64 := by
      rw [length_parseHexPairs pairs, hash.toList_length]
    rw [dif_pos long]
    split
    · rename_i bytes pairs'
      rw [pairs'] at pairs
      cases pairs
      rfl
    · rename_i none
      rw [none] at pairs
      cases pairs

/-- **The grammar of hashes.** -/
theorem parseHex32_eq_some_iff (s : String) (hash : Hash) :
    parseHex32 s = some hash ↔ Spells s.toList hash.toList := by
  rw [parseHex32_eq_some]
  constructor
  · intro pairs
    have ascii := ascii_of_utf8 (lt_of_mem_of_parseHexPairs pairs)
    rw [utf8_of_ascii ascii] at pairs
    exact (parseHexPairs_map_iff ascii).mp pairs
  · intro spells
    rw [utf8_of_ascii spells.ascii]
    exact (parseHexPairs_map_iff spells.ascii).mpr spells

theorem toList_hexEncode_cons (b : UInt8) (bytes : Bytes) :
    (hexEncode (b :: bytes)).toList =
      Nat.digitChar (b.toNat / 16) :: Nat.digitChar (b.toNat % 16) :: (hexEncode bytes).toList := by
  have bound := b.toNat_lt
  have high : (b / 16).toNat = b.toNat / 16 := UInt8.toNat_div b 16
  have low : (b % 16).toNat = b.toNat % 16 := UInt8.toNat_mod b 16
  rw [hexEncode, hexEncode, String.toList_ofList, String.toList_ofList, List.flatMap_cons,
    hexDigit_eq (by omega), hexDigit_eq (by omega), high, low]
  rfl

/-- What is printed spells the bytes. -/
theorem spells_hexEncode (bytes : Bytes) : Spells (hexEncode bytes).toList bytes := by
  induction bytes with
  | nil => exact .nil
  | cons b bytes ih =>
      have bound := b.toNat_lt
      rw [toList_hexEncode_cons]
      exact .cons ⟨by omega, .inl rfl⟩ ⟨by omega, .inl rfl⟩ (by omega) ih

/-- What spells the bytes is printed in lower case. -/
theorem Spells.map_toLower {cs : List Char} {bytes : Bytes} (spells : Spells cs bytes) :
    cs.map Char.toLower = (hexEncode bytes).toList := by
  induction spells with
  | nil => rfl
  | @cons c d high low cs b bytes highDigit lowDigit value rest ih =>
      have lowSmall := lowDigit.1
      have high_ : b.toNat / 16 = high := by omega
      have low_ : b.toNat % 16 = low := by omega
      rw [List.map_cons, List.map_cons, highDigit.toLower, lowDigit.toLower, ih,
        toList_hexEncode_cons, high_, low_]

theorem parseHex32_hexLower (hash : Hash) : parseHex32 (hexLower hash) = some hash :=
  (parseHex32_eq_some_iff _ _).mpr (spells_hexEncode hash.toList)

theorem hexLower_of_parseHex32 {s : String} {hash : Hash} (parsed : parseHex32 s = some hash) :
    hexLower hash = s.toLower := by
  have spells := (parseHex32_eq_some_iff s hash).mp parsed
  apply String.toList_inj.mp
  show _ = (s.map Char.toLower).toList
  rw [String.toList_map, spells.map_toLower]
  rfl

/-- Different hashes have different texts. -/
theorem hexLower_injective : Function.Injective hexLower := by
  intro hash hash' same
  have parsed := parseHex32_hexLower hash
  rw [same, parseHex32_hexLower] at parsed
  exact (Option.some.inj parsed).symm

/-! ## Receipts -/

section Receipts

variable {X : Xdr} {world : World X} {wire : Wire X} {server server' : Server X} {hash : Hash}

/-- No command drops a receipt. -/
theorem Worker.isSome_receipt_step (world : World X) (cmd : Command X) {w : Worker X}
    (found : (w.receipts.lookup hash).isSome) :
    ((w.step world cmd).2.receipts.lookup hash).isSome := by
  by_cases readOnly : cmd.ReadOnly
  · rwa [(step_onlyReads world w readOnly).2.1]
  cases cmd with
  | sendTransaction envelopeBytes hostFunction sourceAccount =>
      rcases sent : sendTransaction world envelopeBytes hostFunction sourceAccount
        ((world.systemTime w.clockReads).getD 0) w.env with ⟨panic | reply, env⟩
      · rwa [step_sendTransaction_of_error sent]
      · rw [step_sendTransaction_of_ok sent]
        by_cases same : hash = reply.hash
        · rw [same, AList.lookup_insert]
          rfl
        · rwa [AList.lookup_insert_ne same]
  | setLedgerEntry key entry liveUntil => exact found
  | closeLedgers ledgers seconds => exact found
  | _ => exact absurd trivial readOnly

theorem Server.isSome_receipt_step (world : World X) (cmd : Command X) {server : Server X}
    (found : (server.worker.receipts.lookup hash).isSome) :
    ((server.step world cmd).2.worker.receipts.lookup hash).isSome := by
  rw [Server.step_worker]
  cases server.alive with
  | false => exact found
  | true => exact Worker.isSome_receipt_step world cmd found

/-- A send stores the receipt under the hash it replies. -/
theorem Server.receipt_of_send {envelopeBytes : X.Buf} {hostFunction : HostFunction}
    {sourceAccount : AccountId} {reply : SendReply X}
    (answered : server.step world (.sendTransaction envelopeBytes hostFunction sourceAccount) =
      (.ok reply, server')) :
    server'.worker.receipts.lookup reply.hash = some reply.receipt := by
  obtain ⟨-, w, ran, rfl⟩ := Server.step_ok_iff.mp answered
  rcases sent : sendTransaction world envelopeBytes hostFunction sourceAccount
    ((world.systemTime server.worker.clockReads).getD 0) server.worker.env with
    ⟨panic | reply', env⟩
  · rw [Worker.step_sendTransaction_of_error sent] at ran
    cases ran
  · rw [Worker.step_sendTransaction_of_ok sent] at ran
    cases ran
    exact AList.lookup_insert _

/-- The hash in the response to a transaction has a receipt. -/
theorem receipt_of_sendTransaction {params : wire.Json} {response : SendTransactionResponse}
    (served : serve world wire "sendTransaction" params server =
      (.result (.sendTransaction response), server')) :
    ∃ hash, response.hash = hexLower hash ∧ (server'.worker.receipts.lookup hash).isSome := by
  have ran := run_of_serve_result served
  rw [dispatch_sendTransaction, handleSendTransaction] at ran
  rcases decodes : decodeSendTransaction wire params with e | request
  · rw [decodes, decoded_error_bind] at ran
    cases ran
  rw [decodes, decoded_ok_bind] at ran
  obtain ⟨sent, s, sendServed, ran⟩ := reply_of_answered ran
  obtain ⟨latest, s', latestServed, ran⟩ := reply_of_answered ran
  obtain ⟨page, s'', pageServed, ran⟩ := reply_of_answered ran
  have stored : (s.worker.receipts.lookup sent.hash).isSome := by
    rw [Server.receipt_of_send sendServed]
    rfl
  have kept := Server.isSome_receipt_step world .getLatestLedger stored
  rw [latestServed] at kept
  have kept' := Server.isSome_receipt_step world .getLedgersPage kept
  rw [pageServed] at kept'
  rcases result : sent.receipt.result with message | value
  · simp only [result] at ran
    cases ran
    exact ⟨sent.hash, rfl, kept'⟩
  · simp only [result] at ran
    cases ran
    exact ⟨sent.hash, rfl, kept'⟩

/-- What a live server answers to a hash that parses. -/
theorem serve_getTransaction {params : wire.Json} {text : String} (alive : server.alive = true)
    (parses : wire.getTransactionParams params = .ok ⟨text⟩)
    (isHash : parseHex32 text = some hash) :
    (serve world wire "getTransaction" params server).1 =
      .result (.getTransaction (getTransactionResponse wire (server.worker.receipts.lookup hash)
        server.ledgerSequence)) := by
  have decodes : decodeGetTransaction wire params = .ok hash := by
    rw [decodeGetTransaction, parseParams_ok parses, except_ok_bind, isHash]
  show (serve world wire "getTransaction" params server).1 = _
  rw [serve, dispatch_getTransaction, handleGetTransaction, decodes]
  obtain ⟨w, _⟩ := server
  cases alive
  rfl

/-- **Transaction hashes parse exactly.**  A text parses to a hash if and only if it
spells it; a printed hash parses to itself, a parsed text is printed in lower case,
and different hashes are printed differently.  So the hash that `sendTransaction`
returned is found by `getTransaction`, whatever commands are executed in between. -/
theorem hashes_parse_exactly :
    (∀ s hash, parseHex32 s = some hash ↔ Spells s.toList hash.toList) ∧
      (∀ hash, parseHex32 (hexLower hash) = some hash) ∧
      (∀ s hash, parseHex32 s = some hash → hexLower hash = s.toLower) ∧
      (∀ hash hash', hash ≠ hash' → hexLower hash ≠ hexLower hash') ∧
      ∀ {X : Xdr} (world : World X) (wire : Wire X) (params params' : wire.Json)
        (server sent : Server X) (response : SendTransactionResponse) (cmds : List (Command X)),
        serve world wire "sendTransaction" params server =
          (.result (.sendTransaction response), sent) →
        wire.getTransactionParams params' = .ok ⟨response.hash⟩ →
        ((Server.machine world).run cmds sent).2.alive = true →
          ∃ found, (serve world wire "getTransaction" params'
              ((Server.machine world).run cmds sent).2).1 = .result (.getTransaction found) ∧
            found.status ≠ .notFound := by
  refine ⟨parseHex32_eq_some_iff, parseHex32_hexLower, fun _ _ => hexLower_of_parseHex32,
    fun _ _ differ same => differ (hexLower_injective same), ?_⟩
  intro X world wire params params' server sent response cmds served parses alive
  obtain ⟨hash, text, stored⟩ := receipt_of_sendTransaction served
  have found := (Server.machine world).run_invariant
    (fun server => (server.worker.receipts.lookup hash).isSome)
    (fun cmd _ => Server.isSome_receipt_step world cmd) cmds stored
  have isHash : parseHex32 response.hash = some hash := by rw [text, parseHex32_hexLower]
  refine ⟨_, serve_getTransaction alive parses isHash, ?_⟩
  rw [getTransactionResponse_status]
  obtain ⟨receipt, lookup⟩ := Option.isSome_iff_exists.mp found
  rw [lookup, TransactionStatus.ofReceipt]
  cases receipt.result with
  | ok value => exact TransactionStatus.noConfusion
  | error message => exact TransactionStatus.noConfusion

end Receipts

namespace Sample

def hashWire : Wire xdr := wire [("tx", .envelope (envelope 2 none (call "f" [])))]

/-- The fork after a transaction that was sent to it. -/
def afterSend : Server xdr :=
  (serve world hashWire "sendTransaction" (.sendTransaction ⟨"tx"⟩) (server [])).2

end Sample

open Sample in
theorem hashes_parse_exactly_sent :
    ∃ found, (serve world hashWire "getTransaction" (.getTransaction ⟨hexLower (bytes32 7)⟩)
        ((Server.machine world).run [.closeLedgers 1 5] afterSend).2).1 =
          .result (.getTransaction found) ∧ found.status ≠ .notFound :=
  hashes_parse_exactly.2.2.2.2 world hashWire (.sendTransaction ⟨"tx"⟩)
    (.getTransaction ⟨hexLower (bytes32 7)⟩) (server []) afterSend
    { status := .success
      hash := hexLower (bytes32 7)
      latestLedger := 100
      latestLedgerCloseTime := "1000"
      envelopeXdr := "tx"
      errorMessage := none
      appliedChanges := 0 }
    [.closeLedgers 1 5] rfl rfl rfl

end SorobanFork
