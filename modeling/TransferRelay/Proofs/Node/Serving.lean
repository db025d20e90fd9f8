import TransferRelay.Chain.Ledger
import TransferRelay.Proofs.Json.Completeness
import TransferRelay.Proofs.Node.Replies

/-!
# Nodes that know a chain

A node `Serves` a chain in memory if it returns what the chain holds, and takes what is passed on to
it. For every chain there is such a node (`serves_knowing`): it writes what the chain holds as data
of the contract, and the data in digits into the result of its response.
-/

namespace TransferRelay

namespace Node

namespace Reply

/-- A reply takes what was passed on: a success without an error whose result is null. -/
def Acknowledges (reply : Reply) : Prop :=
  ∃ json, reply.Answers json ∧ json.get? "error" = none ∧ json.get? "result" = some .null

/-- A reply reports an error. -/
def Rejects (reply : Reply) : Prop :=
  ∃ status body json, reply = .response status body ∧ Json.parseUtf8 body = some json ∧
    ReportsError json

theorem Answers.ne_refused {reply : Reply} {json : Json} (h : reply.Answers json) :
    reply ≠ .refused := by
  rintro rfl
  exact h

theorem Rejects.not_carries {reply : Reply} (h : reply.Rejects) (raw : Bytes) :
    ¬reply.Carries raw := by
  obtain ⟨status, body, json, rfl, read, error, herror, -⟩ := h
  rintro ⟨json', s, ⟨-, read'⟩, noError, -⟩
  cases read.symm.trans read'
  cases herror.symm.trans noError

end Reply

/-- A node knows a chain, whatever state it is in itself: it returns what the chain holds, as the
contract at an address writes it, reports an error for a withdrawal that is not stored, and takes
all that is passed on to it. -/
structure Serves {ν : Type} (n : Behaviour ν) (bridge : Address) (chain : Ledger) : Prop where
  completed : ∀ (tx : TransferId) (node : ν),
    (n.reply (.view bridge .completed tx.bytes) node).1.Carries (encodeFlag (chain.completed tx))
  rechargeData : ∀ (tx : TransferId) (node : ν),
    (n.reply (.view bridge .rechargeData tx.bytes) node).1.Carries
      (Recharge.encode (chain.recharges tx))
  withdrawData : ∀ (tx : TransferId) (r : Withdrawal) (node : ν),
    chain.withdrawals tx = some r →
      (n.reply (.view bridge .withdrawData tx.bytes) node).1.Carries (encodeWithdrawal r)
  noWithdraw : ∀ (tx : TransferId) (node : ν), chain.withdrawals tx = none →
    (n.reply (.view bridge .withdrawData tx.bytes) node).1.Rejects
  pass : ∀ (id : Nat) (method : NodeMethod) (params : List String) (node : ν),
    (n.reply (.pass id method params) node).1.Acknowledges

end Node

/-! ## Reading a result -/

namespace Json

theorem parseUtf8_toUTF8 (s : String) : parseUtf8 s.toUTF8 = parse s := by
  rw [parseUtf8, Hex.fromUTF8?_toUTF8, Option.bind_some]

/-- The text of a result that is a string is read back. -/
theorem parse_text_result (s : String) :
    parse (text (.obj [("result", .str s)])) = some (.obj [("result", .str s)]) := by
  let m : WrittenMember := ⟨⟨quoted s, .str s⟩, "result", quoted "result"⟩
  have hchars : chars (.obj [("result", .str s)]) = objectText [m] := by
    simp [chars, memberChars, objectText, WrittenMember.chars, m]
  have labelled : ∀ m' ∈ [m], m'.Labelled :=
    List.forall_mem_singleton.mpr ⟨_, .token, stringText_quoted "result"⟩
  have each : ∀ m' ∈ [m], Spells (maxDepth - 1) m'.text m'.value :=
    List.forall_mem_singleton.mpr (.string (stringText_quoted s))
  have plain : m.name ≠ embeddedName := show "result" ≠ embeddedName by decide
  refine parse_of_spells ?_
  rw [text, String.toList_ofList, hchars]
  exact .members plain labelled each

end Json

/-! ## A node for every chain -/

namespace Node

/-- A success with a value as its body. -/
def Reply.ofJson (json : Json) : Reply :=
  .response 200 json.text.toUTF8

/-- The response that carries data. -/
def Reply.carrying (raw : Bytes) : Reply :=
  .ofJson (.obj [("result", .str (Hex.encodeMarked raw))])

theorem carries_carrying (raw : Bytes) : (Reply.carrying raw).Carries raw := by
  refine ⟨.obj [("result", .str (Hex.encodeMarked raw))], _, ⟨rfl, ?_⟩, rfl, rfl,
    Hex.denotes_encodeMarked raw⟩
  rw [Json.parseUtf8_toUTF8]
  exact Json.parse_text_result _

/-- The response to a read for a transfer, as a chain has it. -/
def Reply.read (chain : Ledger) (tx : TransferId) : ContractView → Reply
  | .completed => .carrying (encodeFlag (chain.completed tx))
  | .rechargeData => .carrying (Recharge.encode (chain.recharges tx))
  | .withdrawData =>
    match chain.withdrawals tx with
    | some r => .carrying (encodeWithdrawal r)
    | none => .ofJson (.obj [("error", .str "none")])

/-- A node that knows a chain. It prepares and sends no transactions. -/
def Behaviour.knowing (chain : Ledger) : Behaviour Unit where
  reply
    | .view _ v argument, node =>
      (if h : argument.length = 32 then .read chain ⟨argument, h⟩ v else .refused, node)
    | .pass _ _ _, node => (.ofJson (.obj [("result", .null)]), node)
    | .prepare _ _ _ _, node => (.refused, node)
    | .send _, node => (.refused, node)

theorem reply_knowing (chain : Ledger) (bridge : Address) (v : ContractView) (tx : TransferId)
    (node : Unit) :
    ((Behaviour.knowing chain).reply (.view bridge v tx.bytes) node).1 = .read chain tx v :=
  dif_pos tx.length_bytes

/-- For every chain there is a node that knows it. -/
theorem serves_knowing (bridge : Address) (chain : Ledger) :
    Serves (.knowing chain) bridge chain where
  completed tx node := by
    rw [reply_knowing]
    exact carries_carrying _
  rechargeData tx node := by
    rw [reply_knowing]
    exact carries_carrying _
  withdrawData tx r node stored := by
    rw [reply_knowing]
    simp only [Reply.read, stored]
    exact carries_carrying _
  noWithdraw tx node missing := by
    rw [reply_knowing]
    simp only [Reply.read, missing]
    exact ⟨200, _, .obj [("error", .str "none")], rfl, Json.parseUtf8_toUTF8 _ ▸ rfl, _, rfl, rfl⟩
  pass id method params node :=
    ⟨.obj [("result", .null)], ⟨rfl, Json.parseUtf8_toUTF8 _ ▸ rfl⟩, rfl, rfl⟩

end Node

end TransferRelay
