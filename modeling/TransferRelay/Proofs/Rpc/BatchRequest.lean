import TransferRelay.Proofs.Rpc.TransferRequest
import TransferRelay.Proofs.Transfer.Batch
import TransferRelay.Proofs.Transfer.Spelling

/-!
# Requests for batches

A request `AsksCompleted` if it asks which of the transfers that some texts spell are complete. The
service filters the texts and does nothing else (`handle_of_asksCompleted`), so the client gets back
its own texts, those whose transfer is complete, or the code of what went wrong
(`handle_asksCompleted`).

What is said of the answers is said over the answers to the reads of the batch, on whatever chain:
one in memory, which reads leave as it is, or a node, which may have changed between two of them.
-/

namespace TransferRelay

variable {σ : Type}

/-! ## Texts and identifiers -/

/-- Each text spells its identifier. -/
abbrev Spell : List String → List TransferId → Prop :=
  Inquiry.Keyed TransferId.parse

theorem keyed_ok (ids : List TransferId) : Inquiry.Keyed .ok ids ids :=
  List.forall₂_same.mpr fun _ _ => rfl

/-- Whether a text spells a transfer that the ledger has complete. -/
def ReadableLedger.hasText {d : Deployment σ} (ledger : ReadableLedger d) (chain : σ)
    (s : String) : Bool :=
  match TransferId.parse s with
  | .ok tx => ledger.has chain tx
  | .error _ => false

theorem ReadableLedger.hasText_of_parse {d : Deployment σ} (ledger : ReadableLedger d) (chain : σ)
    {s : String} {tx : TransferId} (h : TransferId.parse s = .ok tx) :
    ledger.hasText chain s = ledger.has chain tx := by
  rw [hasText, h]

/-- Flags that are what the ledger has of identifiers keep the texts of those that are complete. -/
theorem ReadableLedger.keep_eq_filter {d : Deployment σ} (ledger : ReadableLedger d) (chain : σ)
    {txs : List String} {ids : List TransferId} (spell : Spell txs ids) :
    Inquiry.keep txs (ids.map (ledger.has chain)) = txs.filter (ledger.hasText chain) := by
  have hflags : ids.map (ledger.has chain) = txs.map (ledger.hasText chain) := by
    induction spell with
    | nil => rfl
    | cons hs rest ih => rw [List.map_cons, List.map_cons, ih, ledger.hasText_of_parse chain hs]
  rw [hflags, Inquiry.keep_map]

namespace Rpc

/-- A request asks which of the transfers that texts spell are complete. -/
def AsksCompleted (request : Json) (txs : List String) : Prop :=
  ∃ params, request.get? "method" = some (.str "processedInvalidWithdrawtx") ∧
    request.get? "params" = some params ∧ Gives [("txs", some (.arr (txs.map .str)))] params

theorem readTexts_map_str (txs : List String) : FieldType.readTexts (txs.map .str) = .ok txs := by
  induction txs with
  | nil => rfl
  | cons s rest ih =>
    rw [List.map_cons, FieldType.readTexts, ih]
    rfl

/-- The texts of a batch that are left, as JSON. -/
def keptJson (kept : List String) : Json :=
  .arr (kept.map .str)

/-- Handling a request for a batch is filtering its texts. -/
theorem handle_of_asksCompleted {request : Json} {txs : List String}
    (asks : AsksCompleted request txs) :
    handle request = (Inquiry.filterBy TransferId.parse txs).run.bind fun r =>
      answer request (.served .processedInvalidWithdraw) (replied keptJson r) := by
  obtain ⟨params, hmethod, hparams, gives⟩ := asks
  have hm := Method.ofName?_name .processedInvalidWithdraw
  have hparse : Params.parse .processedInvalidWithdraw params = .ok (.processed txs) :=
    Params.parse_of_gives .processedInvalidWithdraw gives
      (.cons (.given (readTexts_map_str txs)) .nil)
  exact handle_of_parse hmethod hm hparams hparse rfl

section Answers

variable (d : Deployment σ) {request : Json} {txs : List String} {ids : List TransferId}
  {flags : List Bool}

/-- A batch is answered and counted by what filtering it gives. -/
theorem complete_handle_of_asksCompleted (asks : AsksCompleted request txs) {w after : World σ}
    {r : Except Fault (List String)}
    (kept : (Inquiry.filterBy TransferId.parse txs).run.complete d w = (r, after)) :
    (handle request).complete d w =
      (⟨requestId request, replied keptJson r⟩,
        d.tally .requests (.request (.served .processedInvalidWithdraw)
          (counted (replied keptJson r))) after) := by
  rw [handle_of_asksCompleted asks]
  simp only [answer_eq]
  rw [Plan.complete_bind_count d _ .requests
    (fun r => .request (.served .processedInvalidWithdraw) (counted (replied keptJson r))), kept]

/-- A batch is answered by what filtering it gives. -/
theorem answer_asksCompleted (asks : AsksCompleted request txs) (w : World σ) :
    ((handle request).complete d w).1.answer =
      replied keptJson ((Inquiry.filterBy TransferId.parse txs).run.complete d w).1 :=
  congrArg (fun result => result.1.answer) (complete_handle_of_asksCompleted d asks rfl)

/-- A batch leaves behind what filtering it does. -/
theorem world_asksCompleted (asks : AsksCompleted request txs) (w : World σ) :
    ((handle request).complete d w).2.chain =
        ((Inquiry.filterBy TransferId.parse txs).run.complete d w).2.chain ∧
      ((handle request).complete d w).2.log =
        ((Inquiry.filterBy TransferId.parse txs).run.complete d w).2.log := by
  rw [complete_handle_of_asksCompleted d asks rfl]
  exact ⟨Deployment.chain_tally d _ _ _, Deployment.log_tally d _ _ _⟩

/-- If all its reads have a flag, a batch is answered with the texts whose flag is set. -/
theorem answer_of_answers (asks : AsksCompleted request txs) (spell : Spell txs ids) {w : World σ}
    (answers : (d.readEach ids w).1 = flags.map .ok) :
    ((handle request).complete d w).1.answer = .ok (keptJson (Inquiry.keep txs flags)) := by
  rw [answer_asksCompleted d asks, Inquiry.complete_filterBy_of_answers d spell answers]
  rfl

/-- Two batches in one are answered as the first and, on the chain behind it, the second. -/
theorem answer_append {request' both : Json} {txs' : List String} {ids' : List TransferId}
    {flags' : List Bool} (asks : AsksCompleted request txs) (asks' : AsksCompleted request' txs')
    (asksBoth : AsksCompleted both (txs ++ txs')) (spell : Spell txs ids) (spell' : Spell txs' ids')
    {w w' : World σ} (behind : w'.chain = (d.readEach ids w).2.chain)
    (answers : (d.readEach ids w).1 = flags.map .ok)
    (answers' : (d.readEach ids' w').1 = flags'.map .ok) :
    ∃ items items', ((handle request).complete d w).1.answer = .ok (.arr items) ∧
      ((handle request').complete d w').1.answer = .ok (.arr items') ∧
      ((handle both).complete d w).1.answer = .ok (.arr (items ++ items')) := by
  refine ⟨_, _, answer_of_answers d asks spell answers, answer_of_answers d asks' spell' answers',
    ?_⟩
  have hanswers : (d.readEach (ids ++ ids') w).1 = (flags ++ flags').map .ok := by
    rw [d.readEach_append, answers, ← d.readEach_congr ids' behind, answers', List.map_append]
  have each : txs.length = flags.length := by
    have hlength := congrArg List.length answers
    rw [d.length_readEach, List.length_map] at hlength
    rw [spell.length_eq, hlength]
  rw [answer_of_answers d asksBoth (List.rel_append spell spell') hanswers, keptJson,
    Inquiry.keep_append each, List.map_append]

/-- **A batch is answered with what the ledger has complete.** Of a request that asks which of the
transfers that texts spell are complete,

* the parameters are refused if one of the texts spells no identifier, and nothing is read;
* the chain sees only reads of the identifiers;
* the answer is that the chain cannot be read if one of the reads fails;
* otherwise the answer is the texts of which the reads say that they are complete, as they are
  written, in their order and each as often as it was there. They spell what filtering the
  identifiers gives, and two batches in one are answered as the first and, on the chain behind it,
  the second;
* if reads leave the chain as it is, they say what the chain has, in whatever company they are made:
  the texts are those whose transfer it has complete, and the two batches may be asked about side by
  side. -/
theorem handle_asksCompleted (asks : AsksCompleted request txs) (chain : σ) (metrics : Metrics)
    (log : List Event) :
    let world : World σ := ⟨chain, metrics, log, []⟩
    let after := (handle request).complete d world
    ((∃ s ∈ txs, ∀ tx, TransferId.parse s ≠ .ok tx) →
      (∃ refusal, after.1.answer = .error refusal ∧ refusal.code = -32602) ∧
        after.2.log = log) ∧
    ∀ ids, Spell txs ids →
      (∃ events, after.2.log = events ++ log ∧
        ∀ e ∈ events, ∃ tx ∈ ids, e.call = .isCompleted tx) ∧
      ((∃ cause, .error cause ∈ (d.readEach ids world).1) →
        ∃ refusal, after.1.answer = .error refusal ∧ refusal.code = -32002) ∧
      (∀ flags, (d.readEach ids world).1 = flags.map .ok →
        after.1.answer = .ok (.arr ((Inquiry.keep txs flags).map .str)) ∧
        ((Inquiry.filter ids).run.complete d world).1 = .ok (Inquiry.keep ids flags) ∧
        Spell (Inquiry.keep txs flags) (Inquiry.keep ids flags) ∧
        ∀ (request' both : Json) (txs' : List String) (ids' : List TransferId) (flags' : List Bool),
          AsksCompleted request' txs' → AsksCompleted both (txs ++ txs') → Spell txs' ids' →
          (d.readEach ids' after.2).1 = flags'.map .ok →
          ∃ items items', after.1.answer = .ok (.arr items) ∧
            ((handle request').complete d after.2).1.answer = .ok (.arr items') ∧
            ((handle both).complete d world).1.answer = .ok (.arr (items ++ items'))) ∧
      ∀ ledger : ReadableLedger d,
        ((∃ tx ∈ ids, ∃ cause, ledger.read chain tx = .error cause) →
          ∃ refusal, after.1.answer = .error refusal ∧ refusal.code = -32002) ∧
        (ledger.ReadsAll chain ids →
          after.1.answer = .ok (.arr ((txs.filter (ledger.hasText chain)).map .str)) ∧
          ((Inquiry.filter ids).run.complete d world).1 = .ok (ids.filter (ledger.has chain)) ∧
          Spell (txs.filter (ledger.hasText chain)) (ids.filter (ledger.has chain)) ∧
          ∀ (request' both : Json) (txs' : List String) (ids' : List TransferId),
            AsksCompleted request' txs' → AsksCompleted both (txs ++ txs') → Spell txs' ids' →
            ledger.ReadsAll chain ids' →
            ∃ items items', after.1.answer = .ok (.arr items) ∧
              ((handle request').complete d world).1.answer = .ok (.arr items') ∧
              ((handle both).complete d world).1.answer = .ok (.arr (items ++ items'))) := by
  intro world after
  obtain ⟨hchain, hlog⟩ := world_asksCompleted d asks world
  refine ⟨?_, fun ids spell => ?_⟩
  · -- the plan of the batch ends without a call
    rintro ⟨s, mem, bad⟩
    obtain ⟨first, -, fault, hfault, hrun⟩ := Inquiry.exists_run_filterBy_eq mem bad
    have hanswer := answer_asksCompleted d asks world
    rw [hrun] at hanswer hlog
    have hcode : fault.kind.code = -32602 := by
      rw [TransferId.kind_of_parse hfault]
      rfl
    exact ⟨⟨.failed fault, hanswer, hcode⟩, hlog⟩
  obtain ⟨hchain', hlog'⟩ := Inquiry.world_filterBy d spell (w := world) rfl
  have unread : (∃ cause, .error cause ∈ (d.readEach ids world).1) →
      ∃ refusal, after.1.answer = .error refusal ∧ refusal.code = -32002 := by
    -- which of the failures is reported does not matter: they have one code
    rintro ⟨cause, mem⟩
    obtain ⟨first, hfirst⟩ := Inquiry.complete_filterBy_of_unread d spell mem
    have hanswer := answer_asksCompleted d asks world
    rw [hfirst] at hanswer
    exact ⟨_, hanswer, rfl⟩
  refine ⟨?_, unread, fun flags answers => ⟨?_, ?_, ?_, ?_⟩, fun ledger => ⟨?_, fun reads => ?_⟩⟩
  · obtain ⟨events, hevents, hcalls, -⟩ := d.exists_log_readFlags ids world
    refine ⟨events.reverse, hlog.trans (hlog'.trans hevents), fun e he => ?_⟩
    have hcall := hcalls.subset (List.mem_map_of_mem (List.mem_reverse.mp he))
    obtain ⟨tx, mem, htx⟩ := List.mem_map.mp hcall
    exact ⟨tx, mem, htx.symm⟩
  · exact answer_of_answers d asks spell answers
  · exact Inquiry.complete_filterBy_of_answers d (keyed_ok ids) answers
  · exact Inquiry.keyed_keep spell flags
  · intro request' both txs' ids' flags' asks' asksBoth spell' answers'
    have behind : after.2.chain = (d.readEach ids world).2.chain := by
      rw [hchain, hchain', d.readFlags_of_answers answers]
    exact answer_append d asks asks' asksBoth spell spell' behind answers answers'
  · rintro ⟨tx, mem, cause, h⟩
    exact unread ⟨cause, ledger.mem_readEach mem h⟩
  · have answers := ledger.readEach_of_readsAll (w := world) reads
    rw [← ledger.keep_eq_filter chain spell, ← Inquiry.keep_map]
    refine ⟨answer_of_answers d asks spell answers,
      Inquiry.complete_filterBy_of_answers d (keyed_ok ids) answers, Inquiry.keyed_keep spell _, ?_⟩
    intro request' both txs' ids' asks' asksBoth spell' reads'
    exact answer_append d asks asks' asksBoth spell spell' (ledger.chain_readEach ids world).symm
      answers (ledger.readEach_of_readsAll (w := world) reads')

end Answers

/-- Texts of both cases on a chain in memory that has one transfer complete and cannot read another:
a text that is no identifier, a batch that cannot be read, and one that is filtered in two parts. -/
theorem handle_asksCompleted_of_mixed_cases :
    let asked (txs : List String) : Json := .obj [("method", .str "processedInvalidWithdrawtx"),
      ("params", .obj [("txs", .arr (txs.map .str))])]
    let lower := "0xaaaaaaaaaaaaaaaaaaaaaaaaaaaaaaaaaaaaaaaaaaaaaaaaaaaaaaaaaaaaaaaa"
    let upper := "AAAAAAAAAAAAAAAAAAAAAAAAAAAAAAAAAAAAAAAAAAAAAAAAAAAAAAAAAAAAAAAA"
    let missing := "0xbbbbbbbbbbbbbbbbbbbbbbbbbbbbbbbbbbbbbbbbbbbbbbbbbbbbbbbbbbbbbbbb"
    let unread := "0xcccccccccccccccccccccccccccccccccccccccccccccccccccccccccccccccc"
    let chain : Ledger := (Ledger.empty.apply (.complete [⟨List.replicate 32 0xaa, rfl⟩])).apply
      (.failReadsOf ⟨List.replicate 32 0xcc, rfl⟩ (some "offline"))
    let d : Deployment Ledger := ⟨Ledger.answer, fun _ => true, 8⟩
    let answer (txs : List String) : Except Refusal Json :=
      ((handle (asked txs)).complete d ⟨chain, .empty, [], []⟩).1.answer
    (∃ refusal, answer [lower, "0x12"] = .error refusal ∧ refusal.code = -32602) ∧
      (∃ refusal, answer [lower, unread] = .error refusal ∧ refusal.code = -32002) ∧
      answer [upper, missing, lower, upper] = .ok (.arr [.str upper, .str lower, .str upper]) ∧
      ∃ items items', answer [upper, missing] = .ok (.arr items) ∧
        answer [lower, upper] = .ok (.arr items') ∧
        answer [upper, missing, lower, upper] = .ok (.arr (items ++ items')) := by
  have parsedLower : TransferId.parse
      "0xaaaaaaaaaaaaaaaaaaaaaaaaaaaaaaaaaaaaaaaaaaaaaaaaaaaaaaaaaaaaaaaa" =
        .ok ⟨List.replicate 32 0xaa, rfl⟩ := by decide +kernel
  have parsedUpper : TransferId.parse
      "AAAAAAAAAAAAAAAAAAAAAAAAAAAAAAAAAAAAAAAAAAAAAAAAAAAAAAAAAAAAAAAA" =
        .ok ⟨List.replicate 32 0xaa, rfl⟩ := by decide +kernel
  have parsedMissing : TransferId.parse
      "0xbbbbbbbbbbbbbbbbbbbbbbbbbbbbbbbbbbbbbbbbbbbbbbbbbbbbbbbbbbbbbbbb" =
        .ok ⟨List.replicate 32 0xbb, rfl⟩ := by decide +kernel
  have parsedUnread : TransferId.parse
      "0xcccccccccccccccccccccccccccccccccccccccccccccccccccccccccccccccc" =
        .ok ⟨List.replicate 32 0xcc, rfl⟩ := by decide +kernel
  have short : TransferId.parse "0x12" = .error (.input (.badTx (.wrongLength 2))) := by
    decide +kernel
  intro asked lower upper missing unread chain d answer
  have asks (txs : List String) : AsksCompleted (asked txs) txs :=
    ⟨_, rfl, rfl, .named (List.pairwise_singleton _ _) (List.forall_mem_singleton.mpr rfl)⟩
  let ledger : ReadableLedger d := Ledger.readable (fun _ => true) 8
  have outage (tx : TransferId) : chain.outageOf tx =
      if tx = ⟨List.replicate 32 0xcc, rfl⟩ then some "offline" else none := rfl
  have reads (txs : List TransferId) (h : ⟨List.replicate 32 0xcc, rfl⟩ ∉ txs) :
      ledger.ReadsAll chain txs := by
    intro tx mem
    refine ⟨chain.completed tx, ?_⟩
    show chain.read tx _ = _
    rw [Ledger.read, outage, if_neg (ne_of_mem_of_not_mem mem h)]
  have kept : [upper, missing, lower, upper].filter (ledger.hasText chain) =
      [upper, lower, upper] := by
    have hupper : ledger.hasText chain upper = true := ledger.hasText_of_parse chain parsedUpper
    have hmissing : ¬ledger.hasText chain missing = true := by
      rw [ledger.hasText_of_parse chain parsedMissing]
      exact Bool.false_ne_true
    have hlower : ledger.hasText chain lower = true := ledger.hasText_of_parse chain parsedLower
    rw [List.filter_cons_of_pos hupper, List.filter_cons_of_neg hmissing,
      List.filter_cons_of_pos hlower, List.filter_cons_of_pos hupper, List.filter_nil]
  have mixed := (handle_asksCompleted d (asks [upper, missing]) chain .empty []).2 _
    (.cons parsedUpper (.cons parsedMissing .nil))
  have unreadable := (handle_asksCompleted d (asks [lower, unread]) chain .empty []).2 _
    (.cons parsedLower (.cons parsedUnread .nil))
  have whole := (handle_asksCompleted d (asks [upper, missing, lower, upper]) chain .empty []).2 _
    (.cons parsedUpper (.cons parsedMissing (.cons parsedLower (.cons parsedUpper .nil))))
  refine ⟨?_, ?_, ?_, ?_⟩
  · exact ((handle_asksCompleted d (asks [lower, "0x12"]) chain .empty []).1
      ⟨"0x12", List.mem_pair.mpr (.inr rfl), fun tx => by rw [short]; exact nofun⟩).1
  · have last : (⟨List.replicate 32 0xcc, rfl⟩ : TransferId) ∈
        [⟨List.replicate 32 0xaa, rfl⟩, ⟨List.replicate 32 0xcc, rfl⟩] :=
      List.mem_pair.mpr (.inr rfl)
    exact (unreadable.2.2.2 ledger).1 ⟨_, last, _, rfl⟩
  · refine ((whole.2.2.2 ledger).2 (reads _ (by decide))).1.trans ?_
    rw [kept]
    rfl
  · exact ((mixed.2.2.2 ledger).2 (reads _ (by decide))).2.2.2 _ _ _ _ (asks [lower, upper])
      (asks _) (.cons parsedLower (.cons parsedUpper .nil)) (reads _ (by decide))

end Rpc

end TransferRelay
