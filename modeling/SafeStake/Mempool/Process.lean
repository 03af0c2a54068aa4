import SafeStake.Mempool.Handler

/-!
# The mempool process as a state machine

`Mempool::spawn` creates the channels, inserts a `TxReceiverHandler` and a
`MempoolReceiverHandler` into the shared maps keyed by `validator_id`, and spawns the
tasks that own the receivers. Nothing in the source ever removes a handler again.
This file runs the whole process as a state machine (`step`): any number of spawns, each
mempool's exit signal, each task dropping its receiver once it has seen the signal,
tasks taking items, and inbound client and peer frames, in any interleaving.

`Transition` says case by case what one step does; `step_transition` and
`transition_step` show that it is exactly what `step` computes, and every result about
runs goes through it. `Boot.lean` splits the spawn into its two inserts; the invariants
of the process are proved there, under every interleaving.

Mirroring notes:
- The task bodies (`BatchMaker`, `Helper`, `Processor`) are not in the source. Following
  the spec's cancellation section, a task takes items from its queue until it has seen
  its mempool's exit signal, and may then drop its receiver.
- The receive layer is not in the source either; it dispatches a frame to the handler the
  map holds for the frame's `validator_id`, and a frame for an unknown id is not
  delivered.
- `spawn` looks its own key up in the committee after registering the handlers and
  panics when it is missing; `inCommittee` stands for that lookup.
- The two inserts of `spawn` (`handleClientsTransactions`, `handleMempoolMessages`) are
  one step here; `Boot.lean` lets other tasks run between them.
- A delivery is one step: its `dispatch` runs to the end or the step cannot happen yet.
  So a peer frame whose send waits for room has no `Ack` recorded until the send goes
  through, although the source writes the `Ack` before it awaits the send.
- The channels that no handler sends to (quorum waiter, own-batch processor, consensus)
  are left out.
-/

namespace SafeStake.Mempool

/-- One mempool started by `Mempool::spawn`: its two handlers (the channels they send
to) and whether its exit signal has fired. -/
structure Instance (K : Type) where
  tx : TxReceiverHandler
  mempool : MempoolReceiverHandler K
  exit : Bool

/-- The tasks that own the receivers a handler sends to. -/
inductive Task where
  | batchMaker
  | helper
  | processor
deriving DecidableEq

/-- The process: the mempools spawned so far (by spawn order) and the two shared
handler maps, each from a `validator_id` to the mempool whose handler it holds. -/
structure Node (K : Type) where
  instances : Nat → Option (Instance K)
  spawned : Nat
  txHandlers : Nat → Option Nat
  mempoolHandlers : Nat → Option Nat
  replies : List (List UInt8)

/-- What can happen next. -/
inductive Event (K : Type) where
  | spawn (validatorId : Nat) (name : K)
  | exit (i : Nat)
  | stop (i : Nat) (t : Task)
  | take (i : Nat) (t : Task)
  | clientTx (validatorId : Nat) (message : RVec UInt8)
  | peerFrame (validatorId : Nat) (serialized : RVec UInt8)

/-- The `validator_id` an event is addressed to: the one a mempool is spawned for, or
the one the receive layer looks a frame's handler up by. -/
def Event.addressee {K : Type} : Event K → Option Nat
  | .spawn vid _ => some vid
  | .clientTx vid _ => some vid
  | .peerFrame vid _ => some vid
  | _ => none

section Channels

variable {α : Type}

/-- The receiving task drops its receiver. -/
def Chan.close (c : Chan α) : Chan α := { c with receiverAlive := false }

/-- The receiving task takes the oldest item, if it has one and still listens. -/
def Chan.take (c : Chan α) : Option (Chan α) :=
  match c.receiverAlive, c.queue with
  | true, _ :: rest => some { c with queue := rest }
  | _, _ => none

/-- A fresh channel, as `MonitoredChannel::new` makes it. -/
def Chan.fresh : Chan α := ⟨[], true⟩

/-- A take removes the oldest item and leaves the receiver as it was. -/
theorem take_eq_some {c c' : Chan α} (h : c.take = some c') :
    c'.receiverAlive = c.receiverAlive ∧ ∃ a, c.queue = a :: c'.queue := by
  obtain ⟨_ | ⟨a, rest⟩, _ | _⟩ := c <;> simp [Chan.take] at h
  subst h
  exact ⟨rfl, a, rfl⟩

end Channels

namespace Instance

variable {K : Type}

/-- A mempool right after `spawn`. -/
def fresh : Instance K := ⟨⟨.fresh⟩, ⟨.fresh, .fresh⟩, false⟩

/-- Task `t` of this mempool drops its receiver. -/
def stop (inst : Instance K) : Task → Instance K
  | .batchMaker => { inst with tx := ⟨inst.tx.txBatchMaker.close⟩ }
  | .helper =>
    { inst with mempool := { inst.mempool with txHelper := inst.mempool.txHelper.close } }
  | .processor =>
    { inst with mempool := { inst.mempool with txProcessor := inst.mempool.txProcessor.close } }

/-- Task `t` of this mempool takes the oldest item of its queue. -/
def take (inst : Instance K) : Task → Option (Instance K)
  | .batchMaker => inst.tx.txBatchMaker.take.map fun c => { inst with tx := ⟨c⟩ }
  | .helper => inst.mempool.txHelper.take.map fun c =>
    { inst with mempool := { inst.mempool with txHelper := c } }
  | .processor => inst.mempool.txProcessor.take.map fun c =>
    { inst with mempool := { inst.mempool with txProcessor := c } }

end Instance

/-- A key for the replayed runs below. -/
def zeroKey : Digest := ⟨List.replicate 32 0, rfl⟩

/-- An empty batch: the frame of `MempoolMessage::Batch(vec![])`. -/
def emptyBatchFrame : RVec UInt8 := ⟨[0, 0, 0, 0, 0, 0, 0, 0, 0, 0, 0, 0], by decide⟩

namespace Node

variable {K : Type}

/-- The process before any mempool is spawned: empty handler maps. -/
def init : Node K := ⟨fun _ => none, 0, fun _ => none, fun _ => none, []⟩

/-- Replace mempool `i`. -/
def setInstance (s : Node K) (i : Nat) (inst : Instance K) : Node K :=
  { s with instances := Function.update s.instances i (some inst) }

/-- What `Mempool::spawn` does to the process: a fresh mempool, numbered in spawn order,
whose handlers `handle_clients_transactions` and `handle_mempool_messages` insert under
`vid`, replacing any handler registered there before. -/
def spawnMempool (s : Node K) (vid : Nat) : Node K :=
  { s with
    instances := Function.update s.instances s.spawned (some .fresh)
    spawned := s.spawned + 1
    txHandlers := Function.update s.txHandlers vid (some s.spawned)
    mempoolHandlers := Function.update s.mempoolHandlers vid (some s.spawned) }

/-- What `handle_clients_transactions` does to the process: a fresh mempool, numbered in
spawn order, whose transaction handler is inserted under `vid`. -/
def handleClientsTransactions (s : Node K) (vid : Nat) : Node K :=
  { s with
    instances := Function.update s.instances s.spawned (some .fresh)
    spawned := s.spawned + 1
    txHandlers := Function.update s.txHandlers vid (some s.spawned) }

/-- What `handle_mempool_messages` does to the process: mempool `i`'s handler is inserted
under `vid`. -/
def handleMempoolMessages (s : Node K) (vid i : Nat) : Node K :=
  { s with mempoolHandlers := Function.update s.mempoolHandlers vid (some i) }

/-- The atomic spawn is the two inserts back to back. -/
theorem spawnMempool_eq (s : Node K) (vid : Nat) :
    s.spawnMempool vid = (s.handleClientsTransactions vid).handleMempoolMessages vid s.spawned :=
  rfl

@[simp] theorem setInstance_instances (s : Node K) (i j : Nat) (inst : Instance K) :
    (s.setInstance i inst).instances j = if j = i then some inst else s.instances j := by
  simp [setInstance, Function.update_apply]

theorem setInstance_instances_self (s : Node K) (i : Nat) (inst : Instance K) :
    (s.setInstance i inst).instances i = some inst := by
  simp

variable (kc : Codec K) (inCommittee : K → Bool)

/-- One step of the process. `none`: the step cannot happen now (nothing to take, a
send waiting for room, no such mempool or handler). Otherwise the next state, and the
panic message if the step ended in an `expect`. -/
def step (s : Node K) : Event K → Option (Node K × Option String)
  | .spawn vid name =>
    some (s.spawnMempool vid,
      if inCommittee name then none else some "Our public key is not in the committee")
  | .exit i => (s.instances i).map fun inst => (s.setInstance i { inst with exit := true }, none)
  | .stop i t => (s.instances i).bind fun inst =>
    if inst.exit then some (s.setInstance i (inst.stop t), none) else none
  | .take i t => (s.instances i).bind fun inst =>
    (inst.take t).map fun inst' => (s.setInstance i inst', none)
  | .clientTx vid message => (s.txHandlers vid).bind fun i => (s.instances i).bind fun inst =>
    match inst.tx.dispatch message with
    | .done tx => some (s.setInstance i { inst with tx }, none)
    | .waiting => none
    | .panicked msg => some (s, some msg)
  | .peerFrame vid serialized =>
    (s.mempoolHandlers vid).bind fun i => (s.instances i).bind fun inst =>
      let d := inst.mempool.dispatch kc serialized
      match d.outcome with
      | .done mempool =>
        some ({ s.setInstance i { inst with mempool } with replies := s.replies ++ [d.reply] },
          none)
      | .waiting => none
      | .panicked msg => some ({ s with replies := s.replies ++ [d.reply] }, some msg)

/-- The steps of the process, one constructor for each way `step` can go: a spawn
registers a fresh mempool; an exit, a stop or a take changes one mempool; a delivered
transaction or frame either completes its `dispatch` on the mempool its handler belongs
to or panics, and a frame adds one `Ack` either way. -/
inductive Transition (s : Node K) : Event K → Node K → Option String → Prop where
  | spawn (vid : Nat) (name : K) :
      Transition s (.spawn vid name) (s.spawnMempool vid)
        (if inCommittee name then none else some "Our public key is not in the committee")
  | exit {i : Nat} {inst : Instance K} (hi : s.instances i = some inst) :
      Transition s (.exit i) (s.setInstance i { inst with exit := true }) none
  | stop {i : Nat} {inst : Instance K} (t : Task) (hi : s.instances i = some inst)
      (hexit : inst.exit = true) :
      Transition s (.stop i t) (s.setInstance i (inst.stop t)) none
  | take {i : Nat} {t : Task} {inst inst' : Instance K} (hi : s.instances i = some inst)
      (ht : inst.take t = some inst') :
      Transition s (.take i t) (s.setInstance i inst') none
  | clientTx {vid i : Nat} {inst : Instance K} {message : RVec UInt8}
      {tx : TxReceiverHandler} (hvid : s.txHandlers vid = some i)
      (hi : s.instances i = some inst) (hd : inst.tx.dispatch message = .done tx) :
      Transition s (.clientTx vid message) (s.setInstance i { inst with tx }) none
  | clientTxPanic {vid i : Nat} {inst : Instance K} {message : RVec UInt8} {msg : String}
      (hvid : s.txHandlers vid = some i) (hi : s.instances i = some inst)
      (hd : inst.tx.dispatch message = .panicked msg) :
      Transition s (.clientTx vid message) s (some msg)
  | peerFrame {vid i : Nat} {inst : Instance K} {serialized : RVec UInt8}
      {mempool : MempoolReceiverHandler K} (hvid : s.mempoolHandlers vid = some i)
      (hi : s.instances i = some inst)
      (hd : (inst.mempool.dispatch kc serialized).outcome = .done mempool) :
      Transition s (.peerFrame vid serialized)
        { s.setInstance i { inst with mempool } with replies := s.replies ++ [ack] } none
  | peerFramePanic {vid i : Nat} {inst : Instance K} {serialized : RVec UInt8} {msg : String}
      (hvid : s.mempoolHandlers vid = some i) (hi : s.instances i = some inst)
      (hd : (inst.mempool.dispatch kc serialized).outcome = .panicked msg) :
      Transition s (.peerFrame vid serialized) { s with replies := s.replies ++ [ack] }
        (some msg)

section Transition

variable {s s' : Node K} {e : Event K} {p : Option String}

theorem step_transition (h : step kc inCommittee s e = some (s', p)) :
    Transition kc inCommittee s e s' p := by
  cases e with
  | spawn vid name =>
    cases h
    exact .spawn vid name
  | exit i =>
    simp only [step, Option.map_eq_some', Prod.mk.injEq] at h
    obtain ⟨inst, hi, rfl, rfl⟩ := h
    exact .exit hi
  | stop i t =>
    simp only [step, Option.bind_eq_some] at h
    obtain ⟨inst, hi, h⟩ := h
    split at h
    · cases h
      exact .stop t hi ‹_›
    · cases h
  | take i t =>
    simp only [step, Option.bind_eq_some, Option.map_eq_some', Prod.mk.injEq] at h
    obtain ⟨inst, hi, inst', ht, rfl, rfl⟩ := h
    exact .take hi ht
  | clientTx vid message =>
    simp only [step, Option.bind_eq_some] at h
    obtain ⟨i, hvid, inst, hi, h⟩ := h
    split at h
    · cases h
      exact .clientTx hvid hi ‹_›
    · cases h
    · cases h
      exact .clientTxPanic hvid hi ‹_›
  | peerFrame vid serialized =>
    simp only [step, Option.bind_eq_some] at h
    obtain ⟨i, hvid, inst, hi, h⟩ := h
    split at h
    · cases h
      exact .peerFrame hvid hi ‹_›
    · cases h
    · cases h
      exact .peerFramePanic hvid hi ‹_›

theorem transition_step (h : Transition kc inCommittee s e s' p) :
    step kc inCommittee s e = some (s', p) := by
  cases h with
  | spawn => rfl
  | exit hi => simp [step, hi]
  | stop t hi hexit => simp [step, hi, hexit]
  | take hi ht => simp [step, hi, ht]
  | clientTx hvid hi hd => simp [step, hvid, hi, hd]
  | clientTxPanic hvid hi hd => simp [step, hvid, hi, hd]
  | peerFrame hvid hi hd => simp [step, hvid, hi, hd]; rfl
  | peerFramePanic hvid hi hd => simp [step, hvid, hi, hd]; rfl

end Transition

/-- The states some run from `init` reaches; a panic ends only the task that raised it. -/
inductive Reachable : Node K → Prop where
  | init : Reachable init
  | step {s s' : Node K} {e : Event K} {p : Option String} :
      Reachable s → step kc inCommittee s e = some (s', p) → Reachable s'

/-- Replay a list of events from `s`; `none` if one of them cannot happen. -/
def run (s : Node K) : List (Event K) → Option (Node K)
  | [] => some s
  | e :: es => (step kc inCommittee s e).bind fun p => run p.1 es

theorem reachable_of_run : ∀ {s s' : Node K} (es : List (Event K)),
    Reachable kc inCommittee s → run kc inCommittee s es = some s' →
      Reachable kc inCommittee s'
  | _, _, [], hs, h => by cases h; exact hs
  | s, s', e :: es, hs, h => by
    simp only [run, Option.bind_eq_some] at h
    obtain ⟨⟨s₁, p⟩, h₁, h⟩ := h
    exact reachable_of_run es (Reachable.step hs h₁) h

/-- What the atomic process keeps of its own structure: the mempools spawned so far are
numbered `0, 1, ..` in spawn order, both handler maps send a `validator_id` to the same
mempool, one that has been spawned, and no mempool serves two `validator_id`s. -/
structure WellFormed (s : Node K) : Prop where
  instances_isSome : ∀ i, (s.instances i).isSome ↔ i < s.spawned
  maps_agree : s.mempoolHandlers = s.txHandlers
  registered : ∀ vid i, s.txHandlers vid = some i → i < s.spawned
  injective : ∀ vid vid' i, s.txHandlers vid = some i → s.txHandlers vid' = some i → vid = vid'

end Node

end SafeStake.Mempool
