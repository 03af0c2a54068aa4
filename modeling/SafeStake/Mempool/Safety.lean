import SafeStake.Mempool.Boot

/-!
# Safety of the process, with spawn's inserts apart

Everything here holds in every state reachable under any scheduling
(`Reachable kc inCommittee allowed`, for every `allowed`), so also while spawns sit
between their two inserts; the atomic process is a special case (`reachable_boot`).

- `boot_panic_cases`: the process raises three panics only: a resumed spawn whose key is
  not in the committee, a client transaction to a mempool whose `BatchMaker` has dropped
  its receiver after the exit signal, and a peer frame to a mempool whose exit signal has
  fired. `clientTx_panics_only_after_exit` and `peerFrame_panics_only_after_exit` say
  exactly when each kind of delivery panics and what it leaves behind.
- `processor_queue_holds_batches`: the peer-side `Processor` is only handed `Batch` frames.
- `delivery_accepted_before_exit`: before its exit signal, a mempool with room takes every
  delivery the map of that kind of delivery sends it, also the previous mempool of an id
  whose new spawn has not yet inserted its mempool handler.
- `run_other_validators`: validators sharing the process do not disturb each other. A stage
  concerns another id (`Other`) when it is an event addressed to another id or resumes a
  spawn under another id; each such step keeps all that concerns `vid` (`step_agree`),
  because no mempool serves two ids (`Boot.WellFormed.owner`).
-/

namespace SafeStake.Mempool

namespace Boot

variable {K : Type}

/-- The panics the process can raise in state `b`: the resumption of a spawn whose key is
not in the committee; a client transaction to a mempool whose exit signal has fired and
whose `BatchMaker` has dropped its receiver; a peer frame to a mempool whose exit signal
has fired, with the `expect` message of the `Processor`'s or the `Helper`'s send. -/
inductive Panic (inCommittee : K → Bool) (b : Boot K) : Stage K → String → Prop where
  | committee {i vid : Nat} {name : K} (hi : b.inFlight i = some (vid, name))
      (hc : inCommittee name = false) :
      Panic inCommittee b (.resume i) "Our public key is not in the committee"
  | transaction {vid i : Nat} {inst : Instance K} (message : RVec UInt8)
      (hvid : b.node.txHandlers vid = some i) (hi : b.node.instances i = some inst)
      (hexit : inst.exit = true) (hdead : inst.tx.txBatchMaker.receiverAlive = false) :
      Panic inCommittee b (.event (.clientTx vid message)) "Failed to send transaction"
  | frame {vid i : Nat} {inst : Instance K} (serialized : RVec UInt8) {msg : String}
      (hvid : b.node.mempoolHandlers vid = some i) (hi : b.node.instances i = some inst)
      (hexit : inst.exit = true)
      (hmsg : msg = "Failed to send batch" ∨ msg = "Failed to send batch request") :
      Panic inCommittee b (.event (.peerFrame vid serialized)) msg

/-- A stage that concerns an id other than `vid`: an event addressed to another id, or the
resumption of a spawn under another id. -/
def Other (b : Boot K) (vid : Nat) : Stage K → Prop
  | .event e => ∃ v, e.addressee = some v ∧ v ≠ vid
  | .resume j => ∀ name, b.inFlight j ≠ some (vid, name)

/-- `b'` agrees with `b` on all that concerns `vid`: both map entries, the spawns under
`vid` in flight, and every mempool that serves `vid`. -/
structure Agree (vid : Nat) (b b' : Boot K) : Prop where
  tx : b'.node.txHandlers vid = b.node.txHandlers vid
  mempool : b'.node.mempoolHandlers vid = b.node.mempoolHandlers vid
  inFlight : ∀ j name, b'.inFlight j = some (vid, name) ↔ b.inFlight j = some (vid, name)
  instances : ∀ i, b.Serves vid i → b'.node.instances i = b.node.instances i

theorem Agree.refl (vid : Nat) (b : Boot K) : Agree vid b b :=
  ⟨rfl, rfl, fun _ _ => Iff.rfl, fun _ _ => rfl⟩

theorem Agree.serves {vid : Nat} {b b' : Boot K} (h : Agree vid b b') (i : Nat) :
    b'.Serves vid i ↔ b.Serves vid i := by
  simp only [Serves, h.tx, h.mempool, h.inFlight]

theorem Agree.trans {vid : Nat} {b b₁ b' : Boot K} (h₁ : Agree vid b b₁)
    (h : Agree vid b₁ b') : Agree vid b b' :=
  ⟨h.tx.trans h₁.tx, h.mempool.trans h₁.mempool,
    fun j name => (h.inFlight j name).trans (h₁.inFlight j name),
    fun i hi => (h.instances i ((h₁.serves i).mpr hi)).trans (h₁.instances i hi)⟩

variable (kc : Codec K) (inCommittee : K → Bool)

/-! ## Which panics the process can raise -/

/-- Under any scheduling, every panic the process raises is one of `Panic`'s: a delivery
panics only after the exit signal of the mempool its own map sends it to, also while a
spawn is between its inserts, and a spawn panics only on resuming with a key that is not
in the committee. -/
theorem boot_panic_cases {allowed : Boot K → Stage K → Prop} {b b' : Boot K}
    {st : Stage K} {msg : String} (hr : Reachable kc inCommittee allowed b)
    (h : step kc inCommittee b st = some (b', some msg)) : Panic inCommittee b st msg := by
  have hs := reachable_inv kc inCommittee hr
  have ht := step_transition kc inCommittee h
  generalize hp : some msg = p at ht
  cases ht with
  | clients => cases hp
  | resume hi =>
    rename_i name
    cases hc : inCommittee name <;> simp only [hc, if_true, if_false] at hp <;> cases hp
    exact .committee hi hc
  | event he ht =>
    cases ht with
    | spawn => cases he
    | clientTxPanic hvid hi hd =>
      cases hp
      obtain ⟨i, inst, hvid, hi, hexit, hdead, rfl, -⟩ := (Node.clientTx_panic_iff kc
        inCommittee hs).mp (Node.transition_step kc inCommittee (.clientTxPanic hvid hi hd))
      exact .transaction _ hvid hi hexit hdead
    | peerFramePanic hvid hi hd =>
      cases hp
      obtain ⟨i, inst, hvid, hi, hexit, hcases, -⟩ := (Node.peerFrame_panic_iff kc
        inCommittee hs).mp (Node.transition_step kc inCommittee (.peerFramePanic hvid hi hd))
      exact .frame _ hvid hi hexit (hcases.imp (·.2.2) (·.2.2))
    | _ => cases hp

/-- A spawn whose key is not in the committee panics when it resumes. -/
theorem committee_panic_example :
    ∃ b b' : Boot Digest, Reachable digestCodec (fun _ => false) (fun _ _ => True) b ∧
      step digestCodec (fun _ => false) b (.resume 0) =
        some (b', some "Our public key is not in the committee") ∧
      Panic (fun _ => false) b (.resume 0) "Our public key is not in the committee" :=
  have hr := reachable_of_run digestCodec (fun _ => false) [.event (.spawn 0 zeroKey)] .init rfl
  ⟨_, _, hr, rfl, boot_panic_cases digestCodec (fun _ => false) hr rfl⟩

/-- A client transaction panics exactly when the `BatchMaker` of the mempool the
transaction handler map sends its id to has dropped the receiver, which it does only after
that mempool's exit signal; the state is left as it was. -/
theorem clientTx_panics_only_after_exit {allowed : Boot K → Stage K → Prop} {b b' : Boot K}
    {vid : Nat} {message : RVec UInt8} {msg : String}
    (hr : Reachable kc inCommittee allowed b) :
    step kc inCommittee b (.event (.clientTx vid message)) = some (b', some msg) ↔
      ∃ i inst, b.node.txHandlers vid = some i ∧ b.node.instances i = some inst ∧
        inst.exit = true ∧ inst.tx.txBatchMaker.receiverAlive = false ∧
        msg = "Failed to send transaction" ∧ b' = b := by
  have hs := reachable_inv kc inCommittee hr
  rw [step_event_eq_some kc inCommittee
    (show (Event.clientTx vid message : Event K).isSpawn = false from rfl)]
  constructor
  · rintro ⟨s', h, rfl⟩
    obtain ⟨i, inst, hvid, hi, hexit, hdead, hmsg, rfl⟩ :=
      (Node.clientTx_panic_iff kc inCommittee hs).mp h
    exact ⟨i, inst, hvid, hi, hexit, hdead, hmsg, rfl⟩
  · rintro ⟨i, inst, hvid, hi, hexit, hdead, hmsg, rfl⟩
    exact ⟨_, (Node.clientTx_panic_iff kc inCommittee hs).mpr
      ⟨i, inst, hvid, hi, hexit, hdead, hmsg, rfl⟩, rfl⟩

/-- A spawn in flight whose mempool has seen its exit signal and lost its `BatchMaker`: a
client transaction for it panics before the spawn has inserted its mempool handler. -/
theorem clientTx_panic_in_flight_example :
    ∃ b : Boot Digest, Reachable digestCodec (fun _ => true) (fun _ _ => True) b ∧
      b.inFlight 0 = some (0, zeroKey) ∧
      step digestCodec (fun _ => true) b (.event (.clientTx 0 ⟨[7], by decide⟩)) =
        some (b, some "Failed to send transaction") :=
  have hr := reachable_of_run digestCodec (fun _ => true)
    [.event (.spawn 0 zeroKey), .event (.exit 0), .event (.stop 0 .batchMaker)] .init rfl
  ⟨_, hr, rfl, (clientTx_panics_only_after_exit digestCodec (fun _ => true) hr).mpr
    ⟨0, _, rfl, rfl, rfl, rfl, rfl, rfl⟩⟩

/-- A peer frame panics exactly when it decodes as a `Batch` and the `Processor` of the
mempool the mempool handler map sends its id to has dropped the receiver, or as a
`BatchRequest` and that mempool's `Helper` has; either happens only after that mempool's
exit signal, and the frame's `Ack` is written all the same. -/
theorem peerFrame_panics_only_after_exit {allowed : Boot K → Stage K → Prop}
    {b b' : Boot K} {vid : Nat} {serialized : RVec UInt8} {msg : String}
    (hr : Reachable kc inCommittee allowed b) :
    step kc inCommittee b (.event (.peerFrame vid serialized)) = some (b', some msg) ↔
      ∃ i inst, b.node.mempoolHandlers vid = some i ∧ b.node.instances i = some inst ∧
        inst.exit = true ∧
        (((∃ bt, deserialize kc serialized.toList = some (.batch bt)) ∧
            inst.mempool.txProcessor.receiverAlive = false ∧ msg = "Failed to send batch") ∨
          ((∃ missing requestor,
              deserialize kc serialized.toList = some (.batchRequest missing requestor)) ∧
            inst.mempool.txHelper.receiverAlive = false ∧
            msg = "Failed to send batch request")) ∧
        b' = ⟨{ b.node with replies := b.node.replies ++ [ack] }, b.inFlight⟩ := by
  have hs := reachable_inv kc inCommittee hr
  rw [step_event_eq_some kc inCommittee
    (show (Event.peerFrame vid serialized : Event K).isSpawn = false from rfl)]
  constructor
  · rintro ⟨s', h, rfl⟩
    obtain ⟨i, inst, hvid, hi, hexit, hcases, rfl⟩ :=
      (Node.peerFrame_panic_iff kc inCommittee hs).mp h
    exact ⟨i, inst, hvid, hi, hexit, hcases, rfl⟩
  · rintro ⟨i, inst, hvid, hi, hexit, hcases, rfl⟩
    exact ⟨_, (Node.peerFrame_panic_iff kc inCommittee hs).mpr
      ⟨i, inst, hvid, hi, hexit, hcases, rfl⟩, rfl⟩

/-- While a second spawn under `validator_id` 0 is in flight, a `Batch` frame for 0 still
reaches the first mempool; once that one has exited and its `Processor` has dropped the
receiver, the frame panics, although the new mempool would take it. -/
theorem frame_to_exited_mempool_panics :
    ∃ b : Boot Digest, Reachable digestCodec (fun _ => true) (fun _ _ => True) b ∧
      b.node.txHandlers 0 = some 1 ∧ b.node.mempoolHandlers 0 = some 0 ∧
      step digestCodec (fun _ => true) b (.event (.peerFrame 0 emptyBatchFrame)) =
        some (⟨{ b.node with replies := b.node.replies ++ [ack] }, b.inFlight⟩,
          some "Failed to send batch") :=
  have hr := reachable_of_run digestCodec (fun _ => true)
    [.event (.spawn 0 zeroKey), .resume 0, .event (.exit 0), .event (.stop 0 .processor),
      .event (.spawn 0 zeroKey)] .init rfl
  ⟨_, hr, rfl, rfl, (peerFrame_panics_only_after_exit digestCodec (fun _ => true) hr).mpr
    ⟨0, _, rfl, rfl, rfl, .inl ⟨⟨_, rfl⟩, rfl, rfl⟩, rfl⟩⟩

/-! ## What the queues hold, and when a delivery is taken -/

/-- In every reachable state, under any scheduling, the peer-side `Processor`'s queue of
every mempool holds only frames that decode as a `Batch`: `dispatch` never hands it
anything else. -/
theorem processor_queue_holds_batches {allowed : Boot K → Stage K → Prop} {b : Boot K}
    {i : Nat} {inst : Instance K} (hr : Reachable kc inCommittee allowed b)
    (hi : b.node.instances i = some inst) :
    ∀ f ∈ inst.mempool.txProcessor.queue, ∃ bt, deserialize kc f.toList = some (.batch bt) :=
  (reachable_inv kc inCommittee hr i inst hi).batches

/-- A mempool that took one `Batch` frame from a peer holds it for its `Processor`, and
it decodes as a `Batch`. -/
theorem processor_holds_batch_example :
    ∃ b : Boot Digest, Reachable digestCodec (fun _ => true) (fun _ _ => True) b ∧
      ∃ inst, b.node.instances 0 = some inst ∧
        inst.mempool.txProcessor.queue = [emptyBatchFrame] ∧
        ∀ f ∈ inst.mempool.txProcessor.queue,
          ∃ bt, deserialize digestCodec f.toList = some (.batch bt) :=
  have hr := reachable_of_run digestCodec (fun _ => true)
    [.event (.spawn 0 zeroKey), .resume 0, .event (.peerFrame 0 emptyBatchFrame)] .init rfl
  ⟨_, hr, _, rfl, rfl,
    processor_queue_holds_batches digestCodec (fun _ => true) (i := 0) hr rfl⟩

/-- Before its exit signal, a mempool with room takes every delivery that the map of that
kind of delivery sends it, without a panic: a client transaction for `vid` joins the back
of the `BatchMaker`'s queue of the mempool the transaction handler map names, and a peer
frame for `vid` completes its `dispatch` on the mempool the mempool handler map names and
adds one `Ack`. While a respawn of `vid` is between its inserts these are two different
mempools. -/
theorem delivery_accepted_before_exit {allowed : Boot K → Stage K → Prop} {b : Boot K}
    (vid : Nat) (hr : Reachable kc inCommittee allowed b) :
    (∀ i inst, b.node.txHandlers vid = some i → b.node.instances i = some inst →
      inst.exit = false → inst.tx.txBatchMaker.queue.length < channelCapacity →
      ∀ message, step kc inCommittee b (.event (.clientTx vid message)) =
        some (⟨b.node.setInstance i { inst with tx := ⟨{ inst.tx.txBatchMaker with
          queue := inst.tx.txBatchMaker.queue ++ [message] }⟩ }, b.inFlight⟩, none)) ∧
    (∀ i inst, b.node.mempoolHandlers vid = some i → b.node.instances i = some inst →
      inst.exit = false → inst.mempool.txHelper.queue.length < channelCapacity →
      inst.mempool.txProcessor.queue.length < channelCapacity →
      ∀ serialized, ∃ mempool,
        (inst.mempool.dispatch kc serialized).outcome = .done mempool ∧
        step kc inCommittee b (.event (.peerFrame vid serialized)) =
          some (⟨{ b.node.setInstance i { inst with mempool } with
            replies := b.node.replies ++ [ack] }, b.inFlight⟩, none)) := by
  have hs := reachable_inv kc inCommittee hr
  refine ⟨fun i inst hvid hi hexit hroom message => ?_,
    fun i inst hvid hi hexit hhr hpr serialized => ?_⟩
  · have hd : inst.tx.dispatch message = .done ⟨{ inst.tx.txBatchMaker with
        queue := inst.tx.txBatchMaker.queue ++ [message] }⟩ := by
      simp [TxReceiverHandler.dispatch, map_send_expect, ((hs i inst hi).live hexit).1, hroom]
    exact (step_event_eq_some kc inCommittee
      (show (Event.clientTx vid message : Event K).isSpawn = false from rfl)).mpr
      ⟨_, Node.transition_step kc inCommittee (.clientTx hvid hi hd), rfl⟩
  · obtain ⟨-, hh, hp⟩ := (hs i inst hi).live hexit
    obtain ⟨mempool, hd⟩ := dispatch_done_of_room kc _ serialized hp hh hpr hhr
    exact ⟨mempool, hd, (step_event_eq_some kc inCommittee
      (show (Event.peerFrame vid serialized : Event K).isSpawn = false from rfl)).mpr
      ⟨_, Node.transition_step kc inCommittee (.peerFrame hvid hi hd), rfl⟩⟩

/-- In a respawn window of `validator_id` 0, the new mempool 1 takes client transactions
and the previous mempool 0 takes peer frames. -/
theorem respawn_window_accepts_example :
    ∃ b : Boot Digest, Reachable digestCodec (fun _ => true) (fun _ _ => True) b ∧
      b.node.txHandlers 0 = some 1 ∧ b.node.mempoolHandlers 0 = some 0 ∧
      ∃ inst inst', b.node.instances 1 = some inst ∧ b.node.instances 0 = some inst' ∧
      (∀ message, step digestCodec (fun _ => true) b (.event (.clientTx 0 message)) =
        some (⟨b.node.setInstance 1 { inst with tx := ⟨{ inst.tx.txBatchMaker with
          queue := inst.tx.txBatchMaker.queue ++ [message] }⟩ }, b.inFlight⟩, none)) ∧
      (∀ serialized, ∃ mempool,
        (inst'.mempool.dispatch digestCodec serialized).outcome = .done mempool ∧
        step digestCodec (fun _ => true) b (.event (.peerFrame 0 serialized)) =
          some (⟨{ b.node.setInstance 0 { inst' with mempool } with
            replies := b.node.replies ++ [ack] }, b.inFlight⟩, none)) :=
  have hr := reachable_of_run digestCodec (fun _ => true)
    [.event (.spawn 0 zeroKey), .resume 0, .event (.spawn 0 zeroKey)] .init rfl
  have h := delivery_accepted_before_exit digestCodec (fun _ => true) 0 hr
  ⟨_, hr, rfl, rfl, _, _, rfl, rfl, h.1 1 _ rfl rfl rfl (by decide),
    h.2 0 _ rfl rfl rfl (by decide) (by decide)⟩

/-! ## Validators sharing the process are isolated -/

/-- A step that concerns another id keeps all that concerns `vid`: a spawn or a
resumption under another id touches only that id's map entries and its new mempool, and a
delivery to another id reaches a mempool that does not serve `vid`. -/
theorem step_agree {b b' : Boot K} {vid : Nat} {st : Stage K} {p : Option String}
    (hb : b.WellFormed) (hst : b.Other vid st) (h : step kc inCommittee b st = some (b', p)) :
    Agree vid b b' := by
  cases step_transition kc inCommittee h with
  | clients v name =>
    obtain ⟨v', hv, hne⟩ := hst
    cases hv
    refine ⟨by simp [Node.handleClientsTransactions, Function.update_noteq (Ne.symm hne)], rfl,
      fun j name' => ?_, fun i hi => ?_⟩
    · simp only [Function.update_apply]
      split
      · subst j
        simp only [Option.some.injEq, Prod.mk.injEq, hne, false_and, false_iff]
        exact fun h => Nat.lt_irrefl _ (hb.spawned vid _ (.inr (.inr ⟨name', h⟩)))
      · rfl
    · simp [Node.handleClientsTransactions, Function.update_noteq
        (Nat.ne_of_lt (hb.spawned vid i hi))]
  | @resume j v name hi =>
    have hne : v ≠ vid := fun hv => hst name (hv ▸ hi)
    refine ⟨rfl, by simp [Node.handleMempoolMessages, Function.update_noteq (Ne.symm hne)],
      fun j' name' => ?_, fun _ _ => rfl⟩
    simp only [Function.update_apply]
    split
    · subst j'
      simp only [reduceCtorEq, false_iff]
      exact hst name'
    · rfl
  | event he ht =>
    obtain ⟨htx, hm, -⟩ := event_frame kc inCommittee he ht
    refine ⟨congrFun htx vid, congrFun hm vid, fun _ _ => Iff.rfl, fun i hi => ?_⟩
    obtain ⟨v, hv, hne⟩ := hst
    cases ht with
    | spawn => cases he
    | exit => cases hv
    | stop => cases hv
    | take => cases hv
    | @clientTx v' j instj m tx hvtx hj hd =>
      cases hv
      have hij : i ≠ j := fun hij => hne (hb.owner _ _ _ (.inl hvtx) (hij ▸ hi))
      simp [hij]
    | clientTxPanic => rfl
    | @peerFrame v' j instj f mempool hvm hj hd =>
      cases hv
      have hij : i ≠ j := fun hij => hne (hb.owner _ _ _ (.inr (.inl hvm)) (hij ▸ hi))
      simp [hij]
    | peerFramePanic => rfl

/-- Over a run whose events are all addressed to other ids and whose resumptions all
finish spawns under other ids, all that concerns `vid` is kept. Resumptions are judged
against the state the run starts from: along such a run the spawns under `vid` in flight
do not change. -/
theorem run_agree {vid : Nat} : ∀ {b b' : Boot K} (sts : List (Stage K)), b.WellFormed →
    (∀ e ∈ Stage.events sts, ∃ v, e.addressee = some v ∧ v ≠ vid) →
    (∀ j, .resume j ∈ sts → ∀ name, b.inFlight j ≠ some (vid, name)) →
    run kc inCommittee b sts = some b' → Agree vid b b'
  | b, _, [], _, _, _, h => by cases h; exact Agree.refl vid b
  | b, b', st :: sts, hb, hev, hres, h => by
    simp only [run, Option.bind_eq_some] at h
    obtain ⟨⟨b₁, p⟩, h₁, h⟩ := h
    have hst : b.Other vid st := by
      cases st with
      | event e => exact hev e (List.mem_cons_self _ _)
      | resume j => exact hres j (List.mem_cons_self _ _)
    have ha := step_agree kc inCommittee hb hst h₁
    refine ha.trans (run_agree sts (step_wellFormed kc inCommittee hb h₁) (fun e he => hev e ?_)
      (fun j hj name hj' => hres j (List.mem_cons_of_mem _ hj) name ((ha.inFlight j name).mp hj'))
      h)
    cases st with
    | event => exact List.mem_cons_of_mem _ he
    | resume => exact he

/-- Validators that share the process do not disturb each other: from any reachable state,
under any scheduling, over any run whose events are all addressed to other `validator_id`s
(spawns under them, their transactions, their peers' frames) and whose resumptions all
finish spawns under other ids, a validator keeps both its map entries and its spawns in
flight, and every mempool serving it stays exactly as it was. -/
theorem run_other_validators {allowed : Boot K → Stage K → Prop} {b b' : Boot K}
    {vid : Nat} (sts : List (Stage K)) (hr : Reachable kc inCommittee allowed b)
    (hev : ∀ e ∈ Stage.events sts, ∃ v, e.addressee = some v ∧ v ≠ vid)
    (hres : ∀ j, .resume j ∈ sts → ∀ name, b.inFlight j ≠ some (vid, name))
    (h : run kc inCommittee b sts = some b') :
    b'.node.txHandlers vid = b.node.txHandlers vid ∧
      b'.node.mempoolHandlers vid = b.node.mempoolHandlers vid ∧
      (∀ j name, b'.inFlight j = some (vid, name) ↔ b.inFlight j = some (vid, name)) ∧
      ∀ i, b.Serves vid i → b'.node.instances i = b.node.instances i :=
  have ha := run_agree kc inCommittee sts (reachable_wellFormed kc inCommittee hr) hev hres h
  ⟨ha.tx, ha.mempool, ha.inFlight, ha.instances⟩

/-- Validator 0, in the middle of a respawn, is left alone by a second validator's spawn,
transaction, resumption and peer frame. -/
theorem second_validator_leaves_first_alone :
    ∃ b b' : Boot Digest,
      run digestCodec (fun _ => true) init
        [.event (.spawn 0 zeroKey), .resume 0, .event (.spawn 0 zeroKey)] = some b ∧
      run digestCodec (fun _ => true) b
        [.event (.spawn 1 zeroKey), .event (.clientTx 1 ⟨[7], by decide⟩), .resume 2,
          .event (.peerFrame 1 emptyBatchFrame)] = some b' ∧
      b'.node.txHandlers 0 = b.node.txHandlers 0 ∧
      b'.node.mempoolHandlers 0 = b.node.mempoolHandlers 0 ∧
      (∀ j name, b'.inFlight j = some (0, name) ↔ b.inFlight j = some (0, name)) ∧
      ∀ i, b.Serves 0 i → b'.node.instances i = b.node.instances i :=
  have hr := reachable_of_run digestCodec (fun _ => true)
    [.event (.spawn 0 zeroKey), .resume 0, .event (.spawn 0 zeroKey)] .init rfl
  ⟨_, _, rfl, rfl, run_other_validators digestCodec (fun _ => true)
    [.event (.spawn 1 zeroKey), .event (.clientTx 1 ⟨[7], by decide⟩), .resume 2,
      .event (.peerFrame 1 emptyBatchFrame)] hr (by decide)
    (fun j hj name h => by
      simp only [List.mem_cons, Stage.resume.injEq, reduceCtorEq, List.mem_nil_iff,
        or_false, false_or] at hj
      subst hj
      cases h)
    rfl⟩

end Boot

end SafeStake.Mempool
