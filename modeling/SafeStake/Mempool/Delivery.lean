import SafeStake.Mempool.Boot

/-!
# What a mempool's tasks are handed over a run

The handlers feed three queues of each mempool: `TxReceiverHandler::dispatch` sends every
client transaction to the `BatchMaker`, and `MempoolReceiverHandler::dispatch` sends the
original bytes of every `Batch` frame to the peer-side `Processor` and the fields of every
`BatchRequest` to the `Helper`. The receive layer finds a client transaction's handler in
the transaction handler map and a peer frame's in the mempool handler map, so each queue is
fed through one map (`Port.registry`); while a respawn sits between its two inserts, the
two maps name different mempools of one `validator_id`.

Over whole runs, with the spawn's inserts apart and under any scheduling, each queue gets
exactly-once, in-order delivery: while the task holds its receiver and its map keeps
naming the mempool, the queue after any run is the queue before, followed by every item
the run's deliveries hand it, each once, unchanged and in arrival order, less the items
the task took from the front. Deliveries to other validators and deliveries meant for the
other queues add nothing.

A `Port` says where a queue sits in a mempool, which map feeds it and what an event hands
it, and `Port.Lawful` how each kind of step acts on it. `step_port` is the one-step form,
by cases on `Node.Transition`; it needs only that the mempool serves one id, which
`Boot.WellFormed.owner` gives. `run_port_queue` is the form over runs of stages, once for
the three ports; `run_batchMaker_queue`, `run_helper_queue` and `run_processor_queue` read
it for each.
-/

namespace SafeStake.Mempool

namespace Event

variable {K : Type} (kc : Codec K)

/-- A client transaction for `vid`: what `dispatch` hands that validator's
`BatchMaker`. -/
def transaction (vid : Nat) : Event K → Option (RVec UInt8)
  | .clientTx v message => if v = vid then some message else none
  | _ => none

/-- A peer frame for `vid` that decodes as a `BatchRequest`: the fields `dispatch` hands
that validator's `Helper`. -/
def batchRequest (vid : Nat) : Event K → Option (RVec Digest × K)
  | .peerFrame v serialized =>
    if v = vid then
      match deserialize kc serialized.toList with
      | some (.batchRequest missing requestor) => some (missing, requestor)
      | _ => none
    else none
  | _ => none

/-- A peer frame for `vid` that decodes as a `Batch`: the bytes `dispatch` hands that
validator's `Processor`. -/
def batchFrame (vid : Nat) : Event K → Option (RVec UInt8)
  | .peerFrame v serialized =>
    if v = vid then
      match deserialize kc serialized.toList with
      | some (.batch _) => some serialized
      | _ => none
    else none
  | _ => none

/-- Task `t` of mempool `i` takes from its queue. -/
def isTake (i : Nat) (t : Task) : Event K → Bool
  | .take j t' => j == i && t' == t
  | _ => false

/-- Neither a new spawn under `vid` nor task `t` of mempool `i` dropping its receiver. -/
def keeps (vid i : Nat) (t : Task) : Event K → Bool
  | .spawn v _ => v != vid
  | .stop j t' => !(j == i && t' == t)
  | _ => true

/-- Which map the receive layer looks the event's `validator_id` up in: the transaction
handler map for a client transaction, the mempool handler map for a peer frame. -/
def viaTx : Event K → Option Bool
  | .clientTx _ _ => some true
  | .peerFrame _ _ => some false
  | _ => none

theorem addressee_of_isTake {e : Event K} {i : Nat} {t : Task} (h : e.isTake i t = true) :
    e.addressee = none := by
  cases e <;> first | rfl | cases h

end Event

/-- One of the queues a mempool's handlers feed: the task that takes from it, whether the
transaction handler map (or else the mempool handler map) routes its deliveries, where it
sits in a mempool, and what an event hands it when the mempool serves `vid`. -/
structure Port (K α : Type) where
  task : Task
  viaTx : Bool
  chan : Instance K → Chan α
  item : Nat → Event K → Option α

namespace Port

variable {K α : Type} (kc : Codec K)

/-- The handler map that routes the port's deliveries. -/
def registry (p : Port K α) (s : Node K) : Nat → Option Nat :=
  if p.viaTx then s.txHandlers else s.mempoolHandlers

/-- How the steps of the process act on a port's channel: the exit flag and the other
tasks' stops and takes leave it alone, and its own task's take takes from it; a delivery
to the mempool appends what it hands the port and leaves the receiver as it was; a
delivery that panics while the receiver is held hands the port nothing; and only an event
addressed to `vid` and routed by the port's map hands anything. -/
structure Lawful (p : Port K α) : Prop where
  exit : ∀ inst : Instance K, p.chan { inst with exit := true } = p.chan inst
  stop : ∀ (inst : Instance K) (t : Task), t ≠ p.task → p.chan (inst.stop t) = p.chan inst
  take_own : ∀ {inst inst' : Instance K}, inst.take p.task = some inst' →
    (p.chan inst).take = some (p.chan inst')
  take_other : ∀ {inst inst' : Instance K} {t : Task}, t ≠ p.task →
    inst.take t = some inst' → p.chan inst' = p.chan inst
  clientTx : ∀ {inst : Instance K} {message : RVec UInt8} {tx : TxReceiverHandler} (vid : Nat),
    inst.tx.dispatch message = .done tx →
    (p.chan { inst with tx }).receiverAlive = (p.chan inst).receiverAlive ∧
      (p.chan { inst with tx }).queue =
        (p.chan inst).queue ++ (p.item vid (.clientTx vid message)).toList
  clientTxPanic : ∀ {inst : Instance K} {message : RVec UInt8} {msg : String} (vid : Nat),
    inst.tx.dispatch message = .panicked msg → (p.chan inst).receiverAlive = true →
    p.item vid (.clientTx vid message) = none
  peerFrame : ∀ {inst : Instance K} {serialized : RVec UInt8}
    {mempool : MempoolReceiverHandler K} (vid : Nat),
    (inst.mempool.dispatch kc serialized).outcome = .done mempool →
    (p.chan { inst with mempool }).receiverAlive = (p.chan inst).receiverAlive ∧
      (p.chan { inst with mempool }).queue =
        (p.chan inst).queue ++ (p.item vid (.peerFrame vid serialized)).toList
  peerFramePanic : ∀ {inst : Instance K} {serialized : RVec UInt8} {msg : String}
    (vid : Nat), (inst.mempool.dispatch kc serialized).outcome = .panicked msg →
    (p.chan inst).receiverAlive = true → p.item vid (.peerFrame vid serialized) = none
  addressee : ∀ {vid : Nat} {e : Event K} {a : α}, p.item vid e = some a →
    e.addressee = some vid ∧ e.viaTx = some p.viaTx

/-- How one event may move the channel `c` of port `p` of mempool `i` to `c'`, `vid`
being the validator the mempool serves: the receiver stays held, and the queue loses its
front item on the task's own take, and otherwise gains what the event hands the port. -/
structure Move (p : Port K α) (vid i : Nat) (e : Event K) (c c' : Chan α) : Prop where
  alive : c'.receiverAlive = true
  taken : e.isTake i p.task = true → ∃ a, c.queue = a :: c'.queue
  appended : e.isTake i p.task = false → c'.queue = c.queue ++ (p.item vid e).toList

/-- A step to `s'` seen from port `p` of mempool `i`, which the port's map sends `vid` to
and which was `inst` before the step: the registration stays, and the channel moves as
`Move` allows. -/
def Step (p : Port K α) (vid i : Nat) (inst : Instance K) (e : Event K) (s' : Node K) :
    Prop :=
  p.registry s' vid = some i ∧ ∃ inst', s'.instances i = some inst' ∧
    p.Move vid i e (p.chan inst) (p.chan inst')

/-- The `BatchMaker`'s queue, fed with client transactions. -/
def batchMaker : Port K (RVec UInt8) :=
  ⟨.batchMaker, true, fun inst => inst.tx.txBatchMaker, Event.transaction⟩

/-- The `Helper`'s queue, fed with the fields of `BatchRequest` frames. -/
def helper : Port K (RVec Digest × K) :=
  ⟨.helper, false, fun inst => inst.mempool.txHelper, Event.batchRequest kc⟩

/-- The peer-side `Processor`'s queue, fed with `Batch` frames. -/
def processor : Port K (RVec UInt8) :=
  ⟨.processor, false, fun inst => inst.mempool.txProcessor, Event.batchFrame kc⟩

theorem batchMaker_lawful : (batchMaker : Port K (RVec UInt8)).Lawful kc where
  exit _ := rfl
  stop _ t ht := by cases t <;> first | rfl | exact absurd rfl ht
  take_own h := by
    simp only [batchMaker, Instance.take, Option.map_eq_some'] at h ⊢
    obtain ⟨c, hc, rfl⟩ := h
    exact hc
  take_other {_ _ t} ht h := by
    cases t <;> simp only [Instance.take, Option.map_eq_some'] at h <;>
      first | exact absurd rfl ht | (obtain ⟨c, -, rfl⟩ := h; rfl)
  clientTx vid hd := by
    obtain ⟨-, rfl⟩ := txDispatch_done hd
    simp [batchMaker, Event.transaction]
  clientTxPanic _ hd halive := Bool.noConfusion ((txDispatch_panicked hd).1.symm.trans halive)
  peerFrame _ _ := ⟨rfl, by simp [batchMaker, Event.transaction]⟩
  peerFramePanic _ _ _ := rfl
  addressee {vid e a} h := by
    cases e <;> simp only [batchMaker, Event.transaction, reduceCtorEq] at h
    split at h
    · subst_vars
      exact ⟨rfl, rfl⟩
    · cases h

theorem helper_lawful : (helper kc : Port K (RVec Digest × K)).Lawful kc where
  exit _ := rfl
  stop _ t ht := by cases t <;> first | rfl | exact absurd rfl ht
  take_own h := by
    simp only [helper, Instance.take, Option.map_eq_some'] at h ⊢
    obtain ⟨c, hc, rfl⟩ := h
    exact hc
  take_other {_ _ t} ht h := by
    cases t <;> simp only [Instance.take, Option.map_eq_some'] at h <;>
      first | exact absurd rfl ht | (obtain ⟨c, -, rfl⟩ := h; rfl)
  clientTx _ _ := ⟨rfl, by simp [helper, Event.batchRequest]⟩
  clientTxPanic _ _ _ := rfl
  peerFrame vid hd := by
    rcases dispatch_done_cases kc _ _ hd with
      ⟨b, hb, -, rfl⟩ | ⟨missing, requestor, hr, -, rfl⟩ | ⟨hn, rfl⟩
    · exact ⟨rfl, by simp [helper, Event.batchRequest, hb]⟩
    · exact ⟨rfl, by simp [helper, Event.batchRequest, hr]⟩
    · exact ⟨rfl, by simp [helper, Event.batchRequest, hn]⟩
  peerFramePanic vid hd halive := by
    rcases (dispatch_eq_panicked kc _ _).mp hd with ⟨⟨b, hb⟩, -, -⟩ | ⟨-, hdead, -⟩
    · simp [helper, Event.batchRequest, hb]
    · exact Bool.noConfusion (hdead.symm.trans halive)
  addressee {vid e a} h := by
    cases e <;> simp only [helper, Event.batchRequest, reduceCtorEq] at h
    split at h
    · subst_vars
      exact ⟨rfl, rfl⟩
    · cases h

theorem processor_lawful : (processor kc : Port K (RVec UInt8)).Lawful kc where
  exit _ := rfl
  stop _ t ht := by cases t <;> first | rfl | exact absurd rfl ht
  take_own h := by
    simp only [processor, Instance.take, Option.map_eq_some'] at h ⊢
    obtain ⟨c, hc, rfl⟩ := h
    exact hc
  take_other {_ _ t} ht h := by
    cases t <;> simp only [Instance.take, Option.map_eq_some'] at h <;>
      first | exact absurd rfl ht | (obtain ⟨c, -, rfl⟩ := h; rfl)
  clientTx _ _ := ⟨rfl, by simp [processor, Event.batchFrame]⟩
  clientTxPanic _ _ _ := rfl
  peerFrame vid hd := by
    rcases dispatch_done_cases kc _ _ hd with
      ⟨b, hb, -, rfl⟩ | ⟨missing, requestor, hr, -, rfl⟩ | ⟨hn, rfl⟩
    · exact ⟨rfl, by simp [processor, Event.batchFrame, hb]⟩
    · exact ⟨rfl, by simp [processor, Event.batchFrame, hr]⟩
    · exact ⟨rfl, by simp [processor, Event.batchFrame, hn]⟩
  peerFramePanic vid hd halive := by
    rcases (dispatch_eq_panicked kc _ _).mp hd with ⟨-, hdead, -⟩ | ⟨⟨missing, requestor, hr⟩, -, -⟩
    · exact Bool.noConfusion (hdead.symm.trans halive)
    · simp [processor, Event.batchFrame, hr]
  addressee {vid e a} h := by
    cases e <;> simp only [processor, Event.batchFrame, reduceCtorEq] at h
    split at h
    · subst_vars
      exact ⟨rfl, rfl⟩
    · cases h

end Port

namespace Boot

variable {K α : Type} (kc : Codec K) (inCommittee : K → Bool)

section Step

variable {p : Port K α} {s : Node K} {vid i : Nat} {inst : Instance K}

theorem port_item_none (hp : p.Lawful kc) {e : Event K} (he : e.addressee ≠ some vid) :
    p.item vid e = none := by
  cases h : p.item vid e
  · rfl
  · exact absurd (hp.addressee h).1 he

/-- A client transaction that the transaction handler map sends to mempool `j` hands
nothing to the port of another mempool `i` that the port's own map sends `vid` to. -/
theorem port_item_clientTx (hp : p.Lawful kc) {v j : Nat} {message : RVec UInt8}
    (hreg : p.registry s vid = some i) (hv : s.txHandlers v = some j) (hij : i ≠ j) :
    p.item vid (.clientTx v message) = none := by
  cases h : p.item vid (.clientTx v message)
  · rfl
  · obtain ⟨hva, hvia⟩ := hp.addressee h
    cases hva
    simp only [Event.viaTx, Option.some.injEq] at hvia
    simp only [Port.registry, ← hvia, if_true] at hreg
    exact absurd (Option.some.inj (hreg.symm.trans hv)) hij

/-- A peer frame that the mempool handler map sends to mempool `j` hands nothing to the
port of another mempool `i` that the port's own map sends `vid` to. -/
theorem port_item_peerFrame (hp : p.Lawful kc) {v j : Nat} {serialized : RVec UInt8}
    (hreg : p.registry s vid = some i) (hv : s.mempoolHandlers v = some j) (hij : i ≠ j) :
    p.item vid (.peerFrame v serialized) = none := by
  cases h : p.item vid (.peerFrame v serialized)
  · rfl
  · obtain ⟨hva, hvia⟩ := hp.addressee h
    cases hva
    simp only [Event.viaTx, Option.some.injEq] at hvia
    simp only [Port.registry, ← hvia] at hreg
    exact absurd (Option.some.inj (hreg.symm.trans hv)) hij

theorem port_move_of_eq {e : Event K} {c c' : Chan α} (hc : c' = c)
    (halive : c.receiverAlive = true) (ht : e.isTake i p.task = false)
    (hf : p.item vid e = none) : p.Move vid i e c c' :=
  ⟨hc ▸ halive, fun h => Bool.noConfusion (ht.symm.trans h), fun _ => by rw [hc, hf]; simp⟩

/-- A step that rewrites another mempool `j` leaves mempool `i`'s channel alone. -/
theorem port_step_other {e : Event K} {j : Nat} {inst₂ : Instance K} (hij : i ≠ j)
    (hreg : p.registry s vid = some i) (hi : s.instances i = some inst)
    (halive : (p.chan inst).receiverAlive = true) (ht : e.isTake i p.task = false)
    (hf : p.item vid e = none) : p.Step vid i inst e (s.setInstance j inst₂) :=
  ⟨hreg, inst, by simp [hij, hi], port_move_of_eq rfl halive ht hf⟩

/-- A step that rewrites some mempool `j` but not the port's channel in it, for an event
that takes nothing from mempool `i`'s port and hands it nothing. -/
theorem port_step_setInstance {e : Event K} {j : Nat} {instj inst₂ : Instance K}
    (hreg : p.registry s vid = some i) (hi : s.instances i = some inst)
    (hj : s.instances j = some instj) (hc : p.chan inst₂ = p.chan instj)
    (halive : (p.chan inst).receiverAlive = true) (ht : e.isTake i p.task = false)
    (hf : p.item vid e = none) : p.Step vid i inst e (s.setInstance j inst₂) := by
  by_cases hij : i = j
  · subst hij
    obtain rfl : instj = inst := Option.some.inj (hj.symm.trans hi)
    exact ⟨hreg, _, Node.setInstance_instances_self _ _ _, port_move_of_eq hc halive ht hf⟩
  · exact port_step_other hij hreg hi halive ht hf

/-- A delivery to mempool `i` itself, completing with the channel moved as the port's law
says. -/
theorem port_step_own {e : Event K} {inst₂ : Instance K} (hreg : p.registry s vid = some i)
    (halive : (p.chan inst).receiverAlive = true) (ht : e.isTake i p.task = false)
    (hmove : (p.chan inst₂).receiverAlive = (p.chan inst).receiverAlive ∧
      (p.chan inst₂).queue = (p.chan inst).queue ++ (p.item vid e).toList) :
    p.Step vid i inst e (s.setInstance i inst₂) :=
  ⟨hreg, _, Node.setInstance_instances_self _ _ _, hmove.1.trans halive,
    fun h => Bool.noConfusion (ht.symm.trans h), fun _ => hmove.2⟩

/-- One step of the process other than a spawn, seen from port `p` of mempool `i`, which
the port's map sends `vid` to and which serves no other id: unless the step stops the
port's task, the registration stays and the channel moves as `Move` allows. A delivery
that reaches mempool `i` is for `vid`; one that reaches another mempool hands the port
nothing, whichever map routed it. -/
theorem step_port (hp : p.Lawful kc) {s' : Node K} {e : Event K} {r : Option String}
    (hown : ∀ v, s.txHandlers v = some i ∨ s.mempoolHandlers v = some i → v = vid)
    (hreg : p.registry s vid = some i) (hi : s.instances i = some inst)
    (halive : (p.chan inst).receiverAlive = true) (hkeep : e.keeps vid i p.task = true)
    (he : e.isSpawn = false) (h : Node.Transition kc inCommittee s e s' r) :
    p.Step vid i inst e s' := by
  cases h with
  | spawn => cases he
  | exit hj =>
    exact port_step_setInstance hreg hi hj (hp.exit _) halive (by simp [Event.isTake])
      (port_item_none kc hp (by simp [Event.addressee]))
  | @stop j instj t hj hexit =>
    have hf : p.item vid (.stop j t) = none := port_item_none kc hp (by simp [Event.addressee])
    by_cases ht : t = p.task
    · subst ht
      have hij : i ≠ j := fun hij => by simp [Event.keeps, hij] at hkeep
      exact port_step_other hij hreg hi halive rfl hf
    · exact port_step_setInstance hreg hi hj (hp.stop _ _ ht) halive rfl hf
  | @take j t instj inst' hj ht =>
    have hf : p.item vid (.take j t) = none := port_item_none kc hp (by simp [Event.addressee])
    by_cases htask : t = p.task
    · subst htask
      by_cases hij : i = j
      · subst hij
        obtain rfl : instj = inst := Option.some.inj (hj.symm.trans hi)
        obtain ⟨halive', a, hq⟩ := take_eq_some (hp.take_own ht)
        exact ⟨hreg, _, Node.setInstance_instances_self _ _ _, halive'.trans halive,
          fun _ => ⟨a, hq⟩, fun hf => by simp [Event.isTake] at hf⟩
      · exact port_step_other hij hreg hi halive (by simp [Event.isTake, Ne.symm hij]) hf
    · exact port_step_setInstance hreg hi hj (hp.take_other htask ht) halive
        (by simp [Event.isTake, htask]) hf
  | @clientTx v j instj message tx hv hj hd =>
    by_cases hij : i = j
    · subst hij
      obtain rfl := hown v (.inl hv)
      obtain rfl : instj = inst := Option.some.inj (hj.symm.trans hi)
      exact port_step_own hreg halive rfl (hp.clientTx _ hd)
    · exact port_step_other hij hreg hi halive rfl (port_item_clientTx kc hp hreg hv hij)
  | @clientTxPanic v j instj message msg hv hj hd =>
    refine ⟨hreg, inst, hi, port_move_of_eq rfl halive rfl ?_⟩
    by_cases hij : i = j
    · subst hij
      obtain rfl := hown v (.inl hv)
      obtain rfl : instj = inst := Option.some.inj (hj.symm.trans hi)
      exact hp.clientTxPanic _ hd halive
    · exact port_item_clientTx kc hp hreg hv hij
  | @peerFrame v j instj serialized mempool hv hj hd =>
    by_cases hij : i = j
    · subst hij
      obtain rfl := hown v (.inr hv)
      obtain rfl : instj = inst := Option.some.inj (hj.symm.trans hi)
      exact port_step_own hreg halive rfl (hp.peerFrame _ hd)
    · exact port_step_other hij hreg hi halive rfl (port_item_peerFrame kc hp hreg hv hij)
  | @peerFramePanic v j instj serialized msg hv hj hd =>
    refine ⟨hreg, inst, hi, port_move_of_eq rfl halive rfl ?_⟩
    by_cases hij : i = j
    · subst hij
      obtain rfl := hown v (.inr hv)
      obtain rfl : instj = inst := Option.some.inj (hj.symm.trans hi)
      exact hp.peerFramePanic _ hd halive
    · exact port_item_peerFrame kc hp hreg hv hij

end Step

section Stage

variable {p : Port K α} {b b' : Boot K} {vid i : Nat} {inst : Instance K} {r : Option String}

theorem registry_serves (hreg : p.registry b.node vid = some i) : b.Serves vid i := by
  cases hvia : p.viaTx <;> simp only [Port.registry, hvia, if_true, Bool.false_eq_true,
    if_false] at hreg
  · exact .inr (.inl hreg)
  · exact .inl hreg

/-- An event stage, seen from port `p` of mempool `i`, which the port's map sends `vid`
to: unless it spawns `vid` again or stops the port's task, the registration stays and the
channel moves as `Move` allows. A spawn under another id makes a new mempool. -/
theorem port_step_event (hp : p.Lawful kc) {e : Event K} (hb : b.WellFormed)
    (hreg : p.registry b.node vid = some i) (hi : b.node.instances i = some inst)
    (halive : (p.chan inst).receiverAlive = true) (hkeep : e.keeps vid i p.task = true)
    (h : step kc inCommittee b (.event e) = some (b', r)) : p.Step vid i inst e b'.node := by
  have hserves := registry_serves hreg
  cases step_transition kc inCommittee h with
  | clients v name =>
    have hv : v ≠ vid := by simpa [Event.keeps] using hkeep
    have hi' : i ≠ b.node.spawned := Nat.ne_of_lt (hb.spawned vid i hserves)
    refine ⟨?_, inst, by simp [Node.handleClientsTransactions, Function.update_noteq hi', hi],
      port_move_of_eq rfl halive rfl (port_item_none kc hp (by simpa [Event.addressee]))⟩
    cases hvia : p.viaTx <;> simpa [Port.registry, hvia, Node.handleClientsTransactions,
      Function.update_noteq (Ne.symm hv)] using hreg
  | event he ht =>
    exact step_port kc inCommittee hp
      (fun v hv => hb.owner v vid i (hv.elim .inl (.inr ∘ .inl)) hserves) hreg hi halive
      hkeep he ht

/-- A resumption rewrites no mempool, and moves the port's map only when it finishes a
spawn under `vid` and the port is fed through the mempool handler map. -/
theorem port_resume {j : Nat}
    (hres : p.viaTx = true ∨ ∀ name, b.inFlight j ≠ some (vid, name))
    (h : step kc inCommittee b (.resume j) = some (b', r)) :
    p.registry b'.node vid = p.registry b.node vid ∧ b'.node.instances = b.node.instances := by
  cases step_transition kc inCommittee h with
  | @resume _ v name hj =>
    refine ⟨?_, rfl⟩
    unfold Port.registry
    rcases hres with hvia | hn
    · simp [hvia, Node.handleMempoolMessages]
    · have hv : v ≠ vid := fun hv => hn name (hv ▸ hj)
      cases p.viaTx <;> simp [Node.handleMempoolMessages, Function.update_noteq (Ne.symm hv)]

/-- A stage other than a spawn under `vid` puts no spawn under `vid` in flight. -/
theorem inFlight_of_step {st : Stage K} {j : Nat} {name : K}
    (hst : ∀ name', st ≠ .event (.spawn vid name')) (h : step kc inCommittee b st = some (b', r))
    (hj : b'.inFlight j = some (vid, name)) : b.inFlight j = some (vid, name) := by
  cases step_transition kc inCommittee h with
  | clients v name' =>
    simp only [Function.update_apply] at hj
    split at hj
    · cases hj
      exact absurd rfl (hst _)
    · exact hj
  | resume =>
    simp only [Function.update_apply] at hj
    split at hj
    · cases hj
    · exact hj
  | event => exact hj

end Stage

/-- What a lawful port is handed over a run of stages: from a well-formed state where the
port's task in the mempool its map sends `vid` to holds its receiver, over any run that
neither spawns `vid` again nor stops that task, and, for a port fed through the mempool
handler map, resumes no spawn under `vid`, the queue is the old queue followed by what the
run's events hand the port, less the items the task took from the front. -/
theorem run_port_queue {p : Port K α} (hp : p.Lawful kc) (vid i : Nat) :
    ∀ {b b' : Boot K} {inst : Instance K} (sts : List (Stage K)), b.WellFormed →
      p.registry b.node vid = some i → b.node.instances i = some inst →
      (p.chan inst).receiverAlive = true →
      (∀ e ∈ Stage.events sts, e.keeps vid i p.task = true) →
      (∀ j, .resume j ∈ sts → p.viaTx = true ∨ ∀ name, b.inFlight j ≠ some (vid, name)) →
      run kc inCommittee b sts = some b' →
      ∃ inst', b'.node.instances i = some inst' ∧
        (p.chan inst').queue =
          ((p.chan inst).queue ++ (Stage.events sts).filterMap (p.item vid)).drop
            ((Stage.events sts).countP (Event.isTake i p.task))
  | _, _, inst, [], _, _, hi, _, _, _, h => by
    cases h
    exact ⟨inst, hi, by simp [Stage.events]⟩
  | b, b', inst, .event e :: sts, hb, hreg, hi, halive, hkeep, hres, h => by
    simp only [run, Option.bind_eq_some] at h
    obtain ⟨⟨b₁, r⟩, h₁, h⟩ := h
    have hke : e.keeps vid i p.task = true := hkeep e (List.mem_cons_self _ _)
    obtain ⟨hreg₁, inst₁, hi₁, halive₁, htake, hrest⟩ :=
      port_step_event kc inCommittee hp hb hreg hi halive hke h₁
    have hnot : ∀ name, Stage.event e ≠ .event (.spawn vid name) := fun name he => by
      cases he
      simp [Event.keeps] at hke
    obtain ⟨inst', hi', hq⟩ := run_port_queue hp vid i sts (step_wellFormed kc inCommittee hb h₁)
      hreg₁ hi₁ halive₁ (fun e' he' => hkeep e' (List.mem_cons_of_mem _ he'))
      (fun j hj => (hres j (List.mem_cons_of_mem _ hj)).imp_right
        fun hn name hf => hn name (inFlight_of_step kc inCommittee hnot h₁ hf)) h
    refine ⟨inst', hi', ?_⟩
    simp only [Stage.events]
    rw [hq, List.countP_cons]
    cases ht : e.isTake i p.task
    · rw [hrest ht, List.filterMap_cons]
      cases p.item vid e <;> simp
    · obtain ⟨a, hqa⟩ := htake ht
      have hf : p.item vid e = none :=
        port_item_none kc hp (by simp [Event.addressee_of_isTake ht])
      rw [hqa, List.filterMap_cons, hf]
      simp
  | b, b', inst, .resume j :: sts, hb, hreg, hi, halive, hkeep, hres, h => by
    simp only [run, Option.bind_eq_some] at h
    obtain ⟨⟨b₁, r⟩, h₁, h⟩ := h
    obtain ⟨hreg₁, hinst⟩ := port_resume kc inCommittee (hres j (List.mem_cons_self _ _)) h₁
    exact run_port_queue hp vid i sts (step_wellFormed kc inCommittee hb h₁) (hreg₁ ▸ hreg)
      (hinst ▸ hi) halive hkeep (fun j' hj' => (hres j' (List.mem_cons_of_mem _ hj')).imp_right
        fun hn name hf => hn name (inFlight_of_step kc inCommittee (by intro _ h; cases h) h₁ hf))
      h

/-- Every transaction a validator's clients send reaches its `BatchMaker` exactly once,
unchanged and in arrival order: from any reachable state, under any scheduling, where the
`BatchMaker` of the mempool the transaction handler map sends the validator to holds its
receiver, over any run that neither spawns the validator again nor stops that
`BatchMaker`, the queue is the old queue followed by the run's client transactions for
the validator, less the items the `BatchMaker` took from the front. -/
theorem run_batchMaker_queue {allowed : Boot K → Stage K → Prop} (vid i : Nat)
    {b b' : Boot K} {inst : Instance K} (sts : List (Stage K))
    (hr : Reachable kc inCommittee allowed b) (hvid : b.node.txHandlers vid = some i)
    (hi : b.node.instances i = some inst) (halive : inst.tx.txBatchMaker.receiverAlive = true)
    (hkeep : ∀ e ∈ Stage.events sts, e.keeps vid i .batchMaker = true)
    (h : run kc inCommittee b sts = some b') :
    ∃ inst', b'.node.instances i = some inst' ∧
      inst'.tx.txBatchMaker.queue =
        (inst.tx.txBatchMaker.queue ++ (Stage.events sts).filterMap (Event.transaction vid)).drop
          ((Stage.events sts).countP (Event.isTake i .batchMaker)) :=
  run_port_queue kc inCommittee (Port.batchMaker_lawful kc) vid i sts
    (reachable_wellFormed kc inCommittee hr) hvid hi halive hkeep (fun _ _ => .inl rfl) h

/-- Two transactions for validator 0 reach its `BatchMaker` while its spawn is still in
flight and after it resumes, around a peer frame and a transaction for validator 1, and
one take: the `BatchMaker` holds the second transaction. -/
theorem batchMaker_gets_transactions_in_order :
    ∃ b b' : Boot Digest,
      run digestCodec (fun _ => true) init
        [.event (.spawn 0 zeroKey), .event (.spawn 1 zeroKey)] = some b ∧
      run digestCodec (fun _ => true) b
        [.event (.clientTx 0 ⟨[7], by decide⟩), .resume 0, .event (.peerFrame 0 emptyBatchFrame),
          .event (.clientTx 1 ⟨[8], by decide⟩), .event (.take 0 .batchMaker),
          .event (.clientTx 0 ⟨[9], by decide⟩)] = some b' ∧
      ∃ inst, b.node.instances 0 = some inst ∧ ∃ inst', b'.node.instances 0 = some inst' ∧
        inst'.tx.txBatchMaker.queue =
          (inst.tx.txBatchMaker.queue ++
            ([⟨[7], by decide⟩, ⟨[9], by decide⟩] : List (RVec UInt8))).drop 1 :=
  have hr := reachable_of_run digestCodec (fun _ => true)
    [.event (.spawn 0 zeroKey), .event (.spawn 1 zeroKey)] .init rfl
  ⟨_, _, rfl, rfl, _, rfl, run_batchMaker_queue digestCodec (fun _ => true) 0 0
    [.event (.clientTx 0 ⟨[7], by decide⟩), .resume 0, .event (.peerFrame 0 emptyBatchFrame),
      .event (.clientTx 1 ⟨[8], by decide⟩), .event (.take 0 .batchMaker),
      .event (.clientTx 0 ⟨[9], by decide⟩)]
    hr rfl rfl rfl (by decide) rfl⟩

/-- Every batch request a validator's peers send reaches its `Helper` exactly once, as
the decoded digests and requestor and in arrival order: from any reachable state, under
any scheduling, where the `Helper` of the mempool the mempool handler map sends the
validator to holds its receiver, over any run that neither starts nor finishes a spawn
under the validator and does not stop that `Helper`, the queue is the old queue followed
by the fields of the run's `BatchRequest` frames for the validator, less the items the
`Helper` took from the front. -/
theorem run_helper_queue {allowed : Boot K → Stage K → Prop} (vid i : Nat) {b b' : Boot K}
    {inst : Instance K} (sts : List (Stage K)) (hr : Reachable kc inCommittee allowed b)
    (hvid : b.node.mempoolHandlers vid = some i) (hi : b.node.instances i = some inst)
    (halive : inst.mempool.txHelper.receiverAlive = true)
    (hkeep : ∀ e ∈ Stage.events sts, e.keeps vid i .helper = true)
    (hres : ∀ j, .resume j ∈ sts → ∀ name, b.inFlight j ≠ some (vid, name))
    (h : run kc inCommittee b sts = some b') :
    ∃ inst', b'.node.instances i = some inst' ∧
      inst'.mempool.txHelper.queue =
        (inst.mempool.txHelper.queue ++
          (Stage.events sts).filterMap (Event.batchRequest kc vid)).drop
          ((Stage.events sts).countP (Event.isTake i .helper)) :=
  run_port_queue kc inCommittee (Port.helper_lawful kc) vid i sts
    (reachable_wellFormed kc inCommittee hr) hvid hi halive hkeep (fun j hj => .inr (hres j hj)) h

/-- The frame of `MempoolMessage::BatchRequest(vec![], zeroKey)`. -/
def emptyRequestFrame : RVec UInt8 := ⟨[1, 0, 0, 0] ++ List.replicate 40 0, by decide⟩

/-- While a respawn of validator 0 is between its inserts, two batch requests for 0 reach
the `Helper` of its previous mempool, around a `Batch` frame, a transaction for 0 (which
goes to the new mempool), validator 1's spawn resuming, a request for validator 1, and one
take: the `Helper` holds the second request. -/
theorem helper_gets_requests_in_order :
    ∃ b b' : Boot Digest,
      run digestCodec (fun _ => true) init
        [.event (.spawn 0 zeroKey), .resume 0, .event (.spawn 1 zeroKey),
          .event (.spawn 0 zeroKey)] = some b ∧
      run digestCodec (fun _ => true) b
        [.event (.peerFrame 0 emptyRequestFrame), .resume 1,
          .event (.peerFrame 0 emptyBatchFrame), .event (.peerFrame 1 emptyRequestFrame),
          .event (.take 0 .helper), .event (.clientTx 0 ⟨[7], by decide⟩),
          .event (.peerFrame 0 emptyRequestFrame)] = some b' ∧
      ∃ inst, b.node.instances 0 = some inst ∧ ∃ inst', b'.node.instances 0 = some inst' ∧
        inst'.mempool.txHelper.queue =
          (inst.mempool.txHelper.queue ++
            [((⟨[], by decide⟩ : RVec Digest), zeroKey), (⟨[], by decide⟩, zeroKey)]).drop 1 :=
  have hr := reachable_of_run digestCodec (fun _ => true)
    [.event (.spawn 0 zeroKey), .resume 0, .event (.spawn 1 zeroKey),
      .event (.spawn 0 zeroKey)] .init rfl
  ⟨_, _, rfl, rfl, _, rfl, run_helper_queue digestCodec (fun _ => true) 0 0
    [.event (.peerFrame 0 emptyRequestFrame), .resume 1,
      .event (.peerFrame 0 emptyBatchFrame), .event (.peerFrame 1 emptyRequestFrame),
      .event (.take 0 .helper), .event (.clientTx 0 ⟨[7], by decide⟩),
      .event (.peerFrame 0 emptyRequestFrame)]
    hr rfl rfl rfl (by decide)
    (fun j hj name h => by
      simp only [List.mem_cons, Stage.resume.injEq, reduceCtorEq, List.mem_nil_iff,
        or_false, false_or] at hj
      subst hj
      cases h)
    rfl⟩

/-- Every `Batch` frame a validator's peers send reaches its `Processor` exactly once, as
the original bytes and in arrival order: from any reachable state, under any scheduling,
where the `Processor` of the mempool the mempool handler map sends the validator to holds
its receiver, over any run that neither starts nor finishes a spawn under the validator
and does not stop that `Processor`, the queue is the old queue followed by the run's
`Batch` frames for the validator, less the items the `Processor` took from the front. -/
theorem run_processor_queue {allowed : Boot K → Stage K → Prop} (vid i : Nat)
    {b b' : Boot K} {inst : Instance K} (sts : List (Stage K))
    (hr : Reachable kc inCommittee allowed b) (hvid : b.node.mempoolHandlers vid = some i)
    (hi : b.node.instances i = some inst)
    (halive : inst.mempool.txProcessor.receiverAlive = true)
    (hkeep : ∀ e ∈ Stage.events sts, e.keeps vid i .processor = true)
    (hres : ∀ j, .resume j ∈ sts → ∀ name, b.inFlight j ≠ some (vid, name))
    (h : run kc inCommittee b sts = some b') :
    ∃ inst', b'.node.instances i = some inst' ∧
      inst'.mempool.txProcessor.queue =
        (inst.mempool.txProcessor.queue ++
          (Stage.events sts).filterMap (Event.batchFrame kc vid)).drop
          ((Stage.events sts).countP (Event.isTake i .processor)) :=
  run_port_queue kc inCommittee (Port.processor_lawful kc) vid i sts
    (reachable_wellFormed kc inCommittee hr) hvid hi halive hkeep (fun j hj => .inr (hres j hj)) h

/-- While a respawn of validator 0 is between its inserts, two `Batch` frames for 0 reach
the `Processor` of its previous mempool, around a transaction for 0, validator 1's spawn
resuming, a frame for validator 1, and one take: the `Processor` holds the second frame. -/
theorem processor_gets_batches_in_order :
    ∃ b b' : Boot Digest,
      run digestCodec (fun _ => true) init
        [.event (.spawn 0 zeroKey), .resume 0, .event (.spawn 1 zeroKey),
          .event (.spawn 0 zeroKey)] = some b ∧
      run digestCodec (fun _ => true) b
        [.event (.peerFrame 0 emptyBatchFrame), .event (.clientTx 0 ⟨[7], by decide⟩),
          .resume 1, .event (.peerFrame 1 emptyBatchFrame), .event (.take 0 .processor),
          .event (.peerFrame 0 emptyBatchFrame)] = some b' ∧
      ∃ inst, b.node.instances 0 = some inst ∧ ∃ inst', b'.node.instances 0 = some inst' ∧
        inst'.mempool.txProcessor.queue =
          (inst.mempool.txProcessor.queue ++ [emptyBatchFrame, emptyBatchFrame]).drop 1 :=
  have hr := reachable_of_run digestCodec (fun _ => true)
    [.event (.spawn 0 zeroKey), .resume 0, .event (.spawn 1 zeroKey),
      .event (.spawn 0 zeroKey)] .init rfl
  ⟨_, _, rfl, rfl, _, rfl, run_processor_queue digestCodec (fun _ => true) 0 0
    [.event (.peerFrame 0 emptyBatchFrame), .event (.clientTx 0 ⟨[7], by decide⟩),
      .resume 1, .event (.peerFrame 1 emptyBatchFrame), .event (.take 0 .processor),
      .event (.peerFrame 0 emptyBatchFrame)]
    hr rfl rfl rfl (by decide)
    (fun j hj name h => by
      simp only [List.mem_cons, Stage.resume.injEq, reduceCtorEq, List.mem_nil_iff,
        or_false, false_or] at hj
      subst hj
      cases h)
    rfl⟩

end Boot

end SafeStake.Mempool
