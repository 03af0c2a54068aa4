import SafeStake.Mempool.Process

/-!
# A mempool's lifecycle: the handlers' `expect`s

`Node.Inv` is the invariant every mempool keeps along every run: until its exit signal
fires it still has every receiver its handlers send to, and the peer-side `Processor` is
only ever handed frames that decode as a `Batch`. Each kind of step keeps it
(`Node.transition_inv`); `Boot.lean` carries it along every run with the spawn's inserts
apart.

`clientTx_panic_iff` and `peerFrame_panic_iff` say exactly when a delivery panics: when
the task its `dispatch` sends to has dropped the receiver, and so, under the invariant,
only after the mempool's exit signal. It can then, since the handler stays registered:
`transaction_after_exit_panics` replays such a run.

Mirroring notes:
- Following the spec's cancellation section, a task drops its receiver only after its
  mempool's exit signal (`Node.step`'s `stop`); that is all the invariant assumes of the
  task bodies, which are not in the source.
-/

namespace SafeStake.Mempool

namespace Instance

variable {K : Type}

/-- Every receiver this mempool's handlers send to is still held. -/
def Live (inst : Instance K) : Prop :=
  inst.tx.txBatchMaker.receiverAlive = true ∧ inst.mempool.txHelper.receiverAlive = true ∧
    inst.mempool.txProcessor.receiverAlive = true

variable (kc : Codec K)

/-- The per-mempool invariant: live until the exit signal, and the `Processor` only ever
handed frames that decode as a `Batch`. -/
structure Inv (inst : Instance K) : Prop where
  live : inst.exit = false → inst.Live
  batches : ∀ f ∈ inst.mempool.txProcessor.queue, ∃ b, deserialize kc f.toList = some (.batch b)

/-- `live` reads only the exit flag and whether the three receivers are held. -/
theorem live_of_flags {inst inst' : Instance K} (h : inst.exit = false → inst.Live)
    (hexit : inst'.exit = inst.exit)
    (hb : inst'.tx.txBatchMaker.receiverAlive = inst.tx.txBatchMaker.receiverAlive)
    (hh : inst'.mempool.txHelper.receiverAlive = inst.mempool.txHelper.receiverAlive)
    (hp : inst'.mempool.txProcessor.receiverAlive = inst.mempool.txProcessor.receiverAlive) :
    inst'.exit = false → inst'.Live := fun he => by
  obtain ⟨h1, h2, h3⟩ := h (hexit ▸ he)
  exact ⟨hb ▸ h1, hh ▸ h2, hp ▸ h3⟩

theorem fresh_inv : (fresh : Instance K).Inv kc :=
  ⟨fun _ => ⟨rfl, rfl, rfl⟩, fun _ h => by cases h⟩

theorem stop_inv {inst : Instance K} (hexit : inst.exit = true) (h : inst.Inv kc) (t : Task) :
    (inst.stop t).Inv kc := by
  cases t <;> exact ⟨fun he => Bool.noConfusion (hexit.symm.trans he), h.batches⟩

theorem take_inv {inst inst' : Instance K} {t : Task} (ht : inst.take t = some inst')
    (h : inst.Inv kc) : inst'.Inv kc := by
  obtain ⟨hlive, hb⟩ := h
  cases t <;> simp only [take, Option.map_eq_some'] at ht <;> obtain ⟨c, hc, rfl⟩ := ht <;>
    obtain ⟨halive, a, hq⟩ := take_eq_some hc
  · exact ⟨live_of_flags hlive rfl halive rfl rfl, hb⟩
  · exact ⟨live_of_flags hlive rfl rfl halive rfl, hb⟩
  · exact ⟨live_of_flags hlive rfl rfl rfl halive,
      fun f hf => hb f (hq ▸ List.mem_cons_of_mem a hf)⟩

theorem exit_inv {inst : Instance K} (h : inst.Inv kc) : ({ inst with exit := true }).Inv kc :=
  ⟨fun hf => Bool.noConfusion hf, h.batches⟩

theorem txDispatch_inv {inst : Instance K} {message : RVec UInt8} {tx : TxReceiverHandler}
    (hd : inst.tx.dispatch message = .done tx) (h : inst.Inv kc) : ({ inst with tx }).Inv kc := by
  obtain ⟨-, rfl⟩ := txDispatch_done hd
  exact ⟨live_of_flags h.live rfl rfl rfl rfl, h.batches⟩

theorem mempoolDispatch_inv {inst : Instance K} {serialized : RVec UInt8}
    {m : MempoolReceiverHandler K} (hd : (inst.mempool.dispatch kc serialized).outcome = .done m)
    (h : inst.Inv kc) : ({ inst with mempool := m }).Inv kc := by
  obtain ⟨hlive, hb⟩ := h
  rcases dispatch_done_cases kc _ _ hd with ⟨b, hdec, -, rfl⟩ | ⟨-, -, -, -, rfl⟩ | ⟨-, rfl⟩
  · refine ⟨live_of_flags hlive rfl rfl rfl rfl, fun f hf => ?_⟩
    rcases List.mem_append.mp hf with hf | hf
    · exact hb f hf
    · rw [List.mem_singleton.mp hf]
      exact ⟨b, hdec⟩
  · exact ⟨live_of_flags hlive rfl rfl rfl rfl, hb⟩
  · exact ⟨hlive, hb⟩

end Instance

namespace Node

variable {K : Type} (kc : Codec K) (inCommittee : K → Bool)

/-- The invariant of every mempool ever spawned. -/
def Inv (s : Node K) : Prop := ∀ i inst, s.instances i = some inst → inst.Inv kc

theorem init_inv : (init : Node K).Inv kc := fun _ _ h => by cases h

theorem setInstance_inv {s : Node K} {i : Nat} {inst : Instance K} (hs : s.Inv kc)
    (hi : inst.Inv kc) : (s.setInstance i inst).Inv kc := by
  intro j inst' hj
  rw [setInstance_instances] at hj
  split at hj
  · cases hj
    exact hi
  · exact hs j inst' hj

theorem handleClientsTransactions_inv {s : Node K} (hs : s.Inv kc) (vid : Nat) :
    (s.handleClientsTransactions vid).Inv kc := by
  intro j inst hj
  simp only [handleClientsTransactions, Function.update_apply] at hj
  split at hj
  · cases hj
    exact Instance.fresh_inv kc
  · exact hs j inst hj

/-- Every step keeps every mempool's invariant. -/
theorem transition_inv {s s' : Node K} {e : Event K} {p : Option String} (hs : s.Inv kc)
    (h : Transition kc inCommittee s e s' p) : s'.Inv kc := by
  cases h with
  | spawn vid name => exact handleClientsTransactions_inv kc hs vid
  | exit hi => exact setInstance_inv kc hs (Instance.exit_inv kc (hs _ _ hi))
  | stop t hi hexit => exact setInstance_inv kc hs (Instance.stop_inv kc hexit (hs _ _ hi) t)
  | take hi ht => exact setInstance_inv kc hs (Instance.take_inv kc ht (hs _ _ hi))
  | clientTx hvid hi hd => exact setInstance_inv kc hs (Instance.txDispatch_inv kc hd (hs _ _ hi))
  | clientTxPanic hvid hi hd => exact hs
  | peerFrame hvid hi hd =>
    exact setInstance_inv kc hs (Instance.mempoolDispatch_inv kc hd (hs _ _ hi))
  | peerFramePanic hvid hi hd => exact hs

/-- A dead receiver under the invariant means the exit signal has fired. -/
theorem exit_of_dead {s : Node K} {i : Nat} {inst : Instance K} (hs : s.Inv kc)
    (hi : s.instances i = some inst) (hdead : ¬inst.Live) : inst.exit = true := by
  cases hx : inst.exit
  · exact absurd ((hs i inst hi).live hx) hdead
  · rfl

/-- A client transaction panics exactly when the `BatchMaker` of the mempool its handler
belongs to has dropped the receiver, and leaves the state as it was; under the invariant
that mempool has seen its exit signal. -/
theorem clientTx_panic_iff {s s' : Node K} {vid : Nat} {message : RVec UInt8}
    {msg : String} (hs : s.Inv kc) :
    step kc inCommittee s (.clientTx vid message) = some (s', some msg) ↔
      ∃ i inst, s.txHandlers vid = some i ∧ s.instances i = some inst ∧ inst.exit = true ∧
        inst.tx.txBatchMaker.receiverAlive = false ∧ msg = "Failed to send transaction" ∧
        s' = s := by
  constructor
  · intro h
    cases step_transition kc inCommittee h with
    | @clientTxPanic _ i inst _ _ hvid hi hd =>
      obtain ⟨hdead, hmsg⟩ := txDispatch_panicked hd
      exact ⟨i, inst, hvid, hi, exit_of_dead kc hs hi fun hl => by simp [hl.1] at hdead,
        hdead, hmsg, rfl⟩
  · rintro ⟨i, inst, hvid, hi, -, hdead, rfl, rfl⟩
    refine transition_step kc inCommittee (.clientTxPanic hvid hi ?_)
    simp [TxReceiverHandler.dispatch, map_send_expect, hdead]

/-- A peer frame panics exactly when it decodes as a `Batch` and the `Processor` of the
mempool its handler belongs to has dropped the receiver, or as a `BatchRequest` and the
`Helper` has, each with the `expect` message of that send; the frame still adds its
`Ack`. Under the invariant that mempool has seen its exit signal. -/
theorem peerFrame_panic_iff {s s' : Node K} {vid : Nat} {serialized : RVec UInt8}
    {msg : String} (hs : s.Inv kc) :
    step kc inCommittee s (.peerFrame vid serialized) = some (s', some msg) ↔
      ∃ i inst, s.mempoolHandlers vid = some i ∧ s.instances i = some inst ∧
        inst.exit = true ∧
        (((∃ b, deserialize kc serialized.toList = some (.batch b)) ∧
            inst.mempool.txProcessor.receiverAlive = false ∧ msg = "Failed to send batch") ∨
          ((∃ missing requestor,
              deserialize kc serialized.toList = some (.batchRequest missing requestor)) ∧
            inst.mempool.txHelper.receiverAlive = false ∧
            msg = "Failed to send batch request")) ∧
        s' = { s with replies := s.replies ++ [ack] } := by
  constructor
  · intro h
    cases step_transition kc inCommittee h with
    | @peerFramePanic _ i inst _ _ hvid hi hd =>
      have hcases := (dispatch_eq_panicked kc _ _).mp hd
      refine ⟨i, inst, hvid, hi, exit_of_dead kc hs hi fun ⟨_, hh, hp⟩ => ?_, hcases, rfl⟩
      rcases hcases with ⟨-, hdead, -⟩ | ⟨-, hdead, -⟩ <;> simp_all
  · rintro ⟨i, inst, hvid, hi, -, hcases, rfl⟩
    exact transition_step kc inCommittee
      (.peerFramePanic hvid hi ((dispatch_eq_panicked kc _ _).mpr hcases))

/-- Spawn a mempool, fire its exit signal, let its `BatchMaker` drop the receiver, and
deliver one client transaction: the handler is still registered and its `expect` fires. -/
theorem transaction_after_exit_panics :
    ∃ s : Node Digest, Reachable digestCodec (fun _ => true) s ∧
      step digestCodec (fun _ => true) s (.clientTx 0 ⟨[7], by decide⟩) =
        some (s, some "Failed to send transaction") :=
  ⟨_, reachable_of_run digestCodec _ [.spawn 0 zeroKey, .exit 0, .stop 0 .batchMaker]
    .init rfl, rfl⟩

end Node

end SafeStake.Mempool
