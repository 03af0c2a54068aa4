import SafeStake.Mempool.Wire

/-!
# The receive handlers: `TxReceiverHandler` and `MempoolReceiverHandler`

The network layer hands every inbound frame to the handler registered for the
validator, and the handler's `dispatch` pushes it into one of the mempool's bounded
channels (`hotstuff/mempool/src/mempool.rs`). A handler only holds sender ends, so
what it can observe of a channel is its queue and whether the receiving task still
holds the receiver; `Chan` is exactly that.

`MempoolReceiverHandler::dispatch` writes `"Ack"` back *before* it decodes the frame,
so every frame is acknowledged, decodable or not. After the reply it routes by the
decoder's answer: a `Batch` frame's original bytes to the `Processor`, a
`BatchRequest`'s fields to the `Helper`, and a decode error nowhere
(`dispatch_done_cases`); on live queues with room it always completes
(`dispatch_done_of_room`). Each `send(..).await.expect(..)` either enqueues the item once,
waits while the queue is full, or panics when the receiver is gone (`map_send_expect`).

Mirroring notes:
- `MonitoredSender` is not in the source; its `send` is taken to be tokio's bounded
  `send`, as the spec's backpressure section describes: `Err` once the receiver has
  been dropped, otherwise wait for room.
- The result of writing the `Ack` is discarded by the source (`let _ =`), so the reply
  is recorded whatever the transport does with it.
-/

namespace SafeStake.Mempool

/-- `CHANNEL_CAPACITY`: the capacity of each mempool channel. -/
def channelCapacity : Nat := 1000

/-- A bounded channel as a sender sees it: the items not yet taken by the receiving
task, and whether that task still holds the receiver. -/
structure Chan (α : Type) where
  queue : List α
  receiverAlive : Bool

/-- The three ways a bounded `send(..).await` can go. -/
inductive Sent (α : Type) where
  | ok (c : Chan α)
  | full
  | closed

/-- `send` on a bounded channel: `Err` once the receiver is dropped, a wait while the
queue is at capacity, else the item joins the back of the queue. -/
def Chan.send {α : Type} (c : Chan α) (a : α) : Sent α :=
  if !c.receiverAlive then .closed
  else if c.queue.length < channelCapacity then .ok { c with queue := c.queue ++ [a] }
  else .full

/-- How one `dispatch` call ends. -/
inductive Outcome (σ : Type) where
  | done (s : σ)
  | waiting
  | panicked (msg : String)

/-- `send(..).await.expect(msg)`: a closed channel is a panic with `msg`. -/
def Sent.expect {α : Type} (r : Sent α) (msg : String) : Outcome (Chan α) :=
  match r with
  | .ok c => .done c
  | .full => .waiting
  | .closed => .panicked msg

/-- The outcome with what completed mapped through `f`. -/
def Outcome.map {σ τ : Type} (f : σ → τ) : Outcome σ → Outcome τ
  | .done s => .done (f s)
  | .waiting => .waiting
  | .panicked msg => .panicked msg

section Chan

variable {α : Type} {c c' : Chan α} {a : α} {msg : String}

theorem send_eq_ok : c.send a = .ok c' ↔
    c.receiverAlive = true ∧ c.queue.length < channelCapacity ∧
      c' = { c with queue := c.queue ++ [a] } := by
  unfold Chan.send
  cases c.receiverAlive <;> by_cases h : c.queue.length < channelCapacity <;>
    simp [h, eq_comm]

theorem send_eq_closed : c.send a = .closed ↔ c.receiverAlive = false := by
  unfold Chan.send
  cases c.receiverAlive <;> by_cases h : c.queue.length < channelCapacity <;> simp [h]

@[simp] theorem expect_eq_done : (c.send a).expect msg = .done c' ↔ c.send a = .ok c' := by
  cases c.send a <;> simp [Sent.expect]

@[simp] theorem expect_eq_panicked {m : String} :
    (c.send a).expect msg = .panicked m ↔ c.send a = .closed ∧ m = msg := by
  cases c.send a <;> simp [Sent.expect, eq_comm]

@[simp] theorem map_eq_done {σ τ : Type} {f : σ → τ} {o : Outcome σ} {t : τ} :
    o.map f = .done t ↔ ∃ s, o = .done s ∧ f s = t := by
  cases o <;> simp [Outcome.map]

@[simp] theorem map_eq_panicked {σ τ : Type} {f : σ → τ} {o : Outcome σ} {m : String} :
    o.map f = .panicked m ↔ o = .panicked m := by
  cases o <;> simp [Outcome.map]

/-- Every way `send(..).await.expect(msg)` can end, with what completed mapped
through `f`. -/
theorem map_send_expect {σ : Type} (f : Chan α → σ) :
    ((c.send a).expect msg).map f =
      if c.receiverAlive = false then .panicked msg
      else if c.queue.length < channelCapacity then .done (f { c with queue := c.queue ++ [a] })
      else .waiting := by
  cases halive : c.receiverAlive <;> by_cases hroom : c.queue.length < channelCapacity <;>
    simp [Chan.send, Sent.expect, Outcome.map, halive, hroom]

/-- A send on a live channel with room completes. -/
theorem send_ok_of_room (halive : c.receiverAlive = true)
    (hroom : c.queue.length < channelCapacity) :
    c.send a = .ok { c with queue := c.queue ++ [a] } :=
  send_eq_ok.mpr ⟨halive, hroom, rfl⟩

end Chan

/-! ## The handlers -/

/-- `TxReceiverHandler`: the sender of the `BatchMaker`'s transaction channel. -/
structure TxReceiverHandler where
  txBatchMaker : Chan Transaction

/-- `TxReceiverHandler::dispatch`: the frame is one transaction, sent to the
`BatchMaker`; nothing is written back. -/
def TxReceiverHandler.dispatch (h : TxReceiverHandler) (message : RVec UInt8) :
    Outcome TxReceiverHandler :=
  ((h.txBatchMaker.send message).expect "Failed to send transaction").map
    fun c => { h with txBatchMaker := c }

/-- `MempoolReceiverHandler`: the senders of the `Helper`'s request channel and of the
peer-side `Processor`'s batch channel. -/
structure MempoolReceiverHandler (K : Type) where
  txHelper : Chan (RVec Digest × K)
  txProcessor : Chan (RVec UInt8)

/-- The bytes `dispatch` writes back first: `Bytes::from("Ack")`. -/
def ack : List UInt8 := [65, 99, 107]

/-- One `dispatch` call: what it wrote back, and how it ended. -/
structure Dispatched (σ : Type) where
  reply : List UInt8
  outcome : Outcome σ

section Dispatch

variable {K : Type} (kc : Codec K)

/-- `MempoolReceiverHandler::dispatch`: reply with an `Ack`, then decode the frame and
route it. A `Batch` is forwarded as the original frame, not a re-encoding. -/
def MempoolReceiverHandler.dispatch (h : MempoolReceiverHandler K)
    (serialized : RVec UInt8) : Dispatched (MempoolReceiverHandler K) :=
  { reply := ack
    outcome :=
      match deserialize kc serialized.toList with
      | some (.batch _) =>
        ((h.txProcessor.send serialized).expect "Failed to send batch").map
          fun c => { h with txProcessor := c }
      | some (.batchRequest missing requestor) =>
        ((h.txHelper.send (missing, requestor)).expect "Failed to send batch request").map
          fun c => { h with txHelper := c }
      | none => .done h }

variable (h : MempoolReceiverHandler K) (serialized : RVec UInt8)

/-- What a completed `dispatch` did, by what the frame decodes to: a `Batch` frame's own
bytes joined the back of the `Processor`'s queue and a `BatchRequest`'s fields the back
of the `Helper`'s, each into a queue with room; a frame that does not decode changed
nothing. -/
theorem dispatch_done_cases {h' : MempoolReceiverHandler K}
    (hd : (h.dispatch kc serialized).outcome = .done h') :
    (∃ b, deserialize kc serialized.toList = some (.batch b) ∧
      h.txProcessor.queue.length < channelCapacity ∧
      h' = { h with txProcessor := { h.txProcessor with
        queue := h.txProcessor.queue ++ [serialized] } }) ∨
    (∃ missing requestor,
      deserialize kc serialized.toList = some (.batchRequest missing requestor) ∧
      h.txHelper.queue.length < channelCapacity ∧
      h' = { h with txHelper := { h.txHelper with
        queue := h.txHelper.queue ++ [(missing, requestor)] } }) ∨
    (deserialize kc serialized.toList = none ∧ h' = h) := by
  simp only [MempoolReceiverHandler.dispatch] at hd
  split at hd
  · rename_i b hb
    simp only [map_eq_done, expect_eq_done] at hd
    obtain ⟨c, hc, rfl⟩ := hd
    obtain ⟨-, hlt, rfl⟩ := send_eq_ok.mp hc
    exact .inl ⟨b, hb, hlt, rfl⟩
  · rename_i missing requestor hr
    simp only [map_eq_done, expect_eq_done] at hd
    obtain ⟨c, hc, rfl⟩ := hd
    obtain ⟨-, hlt, rfl⟩ := send_eq_ok.mp hc
    exact .inr (.inl ⟨missing, requestor, hr, hlt, rfl⟩)
  · rename_i hn
    cases hd
    exact .inr (.inr ⟨hn, rfl⟩)

/-- On live queues with room, `dispatch` completes: the routed item is enqueued. -/
theorem dispatch_done_of_room (hp : h.txProcessor.receiverAlive = true)
    (hh : h.txHelper.receiverAlive = true)
    (hpr : h.txProcessor.queue.length < channelCapacity)
    (hhr : h.txHelper.queue.length < channelCapacity) :
    ∃ h', (h.dispatch kc serialized).outcome = .done h' := by
  simp only [MempoolReceiverHandler.dispatch]
  split
  · exact ⟨_, by rw [send_ok_of_room hp hpr]; rfl⟩
  · exact ⟨_, by rw [send_ok_of_room hh hhr]; rfl⟩
  · exact ⟨h, rfl⟩

/-- `dispatch` panics exactly on a send to a channel whose receiver is gone: a `Batch`
frame's to the `Processor`, a `BatchRequest`'s to the `Helper`, each with the `expect`
message of that send. -/
theorem dispatch_eq_panicked {msg : String} :
    (h.dispatch kc serialized).outcome = .panicked msg ↔
    ((∃ b, deserialize kc serialized.toList = some (.batch b)) ∧
      h.txProcessor.receiverAlive = false ∧ msg = "Failed to send batch") ∨
    ((∃ missing requestor,
        deserialize kc serialized.toList = some (.batchRequest missing requestor)) ∧
      h.txHelper.receiverAlive = false ∧ msg = "Failed to send batch request") := by
  simp only [MempoolReceiverHandler.dispatch]
  split
  · simp_all [send_eq_closed]
  · simp_all [send_eq_closed]
  · simp_all

/-- A frame that does not decode is acknowledged all the same, and leaves both queues
as they were. -/
theorem dispatch_of_undecodable (hn : deserialize kc serialized.toList = none) :
    h.dispatch kc serialized = { reply := ack, outcome := .done h } := by
  simp only [MempoolReceiverHandler.dispatch, hn]

/-- Every frame gets the `Ack` first, decodable or not. A frame that does not decode is
dropped. A `Batch` frame's own bytes are then sent to the `Processor` and nothing to the
`Helper`, a `BatchRequest`'s fields to the `Helper` and nothing to the `Processor`; each
send enqueues its item once on a live queue with room, waits on a full one, and panics
with its `expect` message once the receiver is gone. -/
theorem mempool_dispatch_acks_then_routes :
    (h.dispatch kc serialized).reply = ack ∧
    (deserialize kc serialized.toList = none →
      (h.dispatch kc serialized).outcome = .done h) ∧
    (∀ b, deserialize kc serialized.toList = some (.batch b) →
      (h.dispatch kc serialized).outcome =
        if h.txProcessor.receiverAlive = false then .panicked "Failed to send batch"
        else if h.txProcessor.queue.length < channelCapacity then
          .done { h with txProcessor := { h.txProcessor with
            queue := h.txProcessor.queue ++ [serialized] } }
        else .waiting) ∧
    (∀ missing requestor,
      deserialize kc serialized.toList = some (.batchRequest missing requestor) →
      (h.dispatch kc serialized).outcome =
        if h.txHelper.receiverAlive = false then .panicked "Failed to send batch request"
        else if h.txHelper.queue.length < channelCapacity then
          .done { h with txHelper := { h.txHelper with
            queue := h.txHelper.queue ++ [(missing, requestor)] } }
        else .waiting) :=
  ⟨rfl,
    fun hn => by rw [dispatch_of_undecodable kc h serialized hn],
    fun _ hb => by
      simp only [MempoolReceiverHandler.dispatch, hb, map_send_expect],
    fun _ _ hr => by
      simp only [MempoolReceiverHandler.dispatch, hr, map_send_expect]⟩

end Dispatch

/-- A frame whose variant index is `2` does not decode, and is acknowledged. -/
theorem undecodable_frame_is_acked :
    deserialize digestCodec [2, 0, 0, 0] = none ∧
    (MempoolReceiverHandler.dispatch digestCodec ⟨⟨[], true⟩, ⟨[], true⟩⟩
      ⟨[2, 0, 0, 0], by decide⟩).reply = ack :=
  ⟨by decide, rfl⟩

/-- A completed client dispatch put the message at the back of a queue with room. -/
theorem txDispatch_done {h h' : TxReceiverHandler} {message : RVec UInt8}
    (hd : h.dispatch message = .done h') :
    h.txBatchMaker.queue.length < channelCapacity ∧
      h' = ⟨{ h.txBatchMaker with queue := h.txBatchMaker.queue ++ [message] }⟩ := by
  simp only [TxReceiverHandler.dispatch, map_eq_done, expect_eq_done] at hd
  obtain ⟨c, hc, rfl⟩ := hd
  obtain ⟨-, hlt, rfl⟩ := send_eq_ok.mp hc
  exact ⟨hlt, rfl⟩

theorem txDispatch_panicked {h : TxReceiverHandler} {message : RVec UInt8} {msg : String}
    (hd : h.dispatch message = .panicked msg) :
    h.txBatchMaker.receiverAlive = false ∧ msg = "Failed to send transaction" := by
  simpa [TxReceiverHandler.dispatch, send_eq_closed] using hd

end SafeStake.Mempool
