import SafeStake.Block.Fallback

/-!
# `BlockService::publish_block`: fetch, sign, post, through the fallback

One run of `publish_block` reads the slot clock, asks the validator store for the
randao reveal, picks the graffiti, and then lets `first_success` run the closure
`produceAndPublish` on the beacon nodes: fetch a block, check its proposer index, have
the validator store sign it, post it. A post failure is `Irrecoverable` because the block
has been signed; every earlier failure is `Recoverable`, or `SignBlockNotLeader` when
the signer is not the leader.

The requests each run makes are logged (`Call`), and the results here count them:
- `publishBlock_sign_balance`: `sign_block` succeeds once per rejected post, plus once
  if the run succeeds. A run signs more than once exactly when a post was rejected and
  `first_success` went on to the next node, which fetches and signs again
  (`two_nodes_sign_twice`).
- `publishBlock_recoverable_signed_nothing`: a `Recoverable` run signed nothing, which is
  what makes the blinded-to-full fallback of `do_update` safe.
- `publishBlock_ne_signBlockNotLeader`: the `?` after `first_success` folds every closure
  error through `From<Errors<BlockError>>`, so `SignBlockNotLeader` never leaves
  `publish_block`, whatever the nodes answer.

Mirroring notes:
- The beacon nodes, the validator store and the slot clock are inputs (`PublishEnv`):
  each candidate comes with the answers of its fetch, signature and post. The block is
  reduced to its proposer index, the only field the closure reads.
- The `{:?}` of an external error is its `Debug` text, carried as a string.
-/

namespace SafeStake.Block

/-- `BlockType`: which pair of endpoints a payload type uses. -/
inductive BlockType where
  | full
  | blinded
deriving DecidableEq

/-- Graffiti bytes, passed through to the beacon node. -/
abbrev Graffiti := List UInt8

/-- A beacon block as the closure reads it: the proposer index it names. -/
structure BeaconBlock where
  proposerIndex : Nat
deriving DecidableEq

/-- What `sign_block` returns. -/
structure SignedBeaconBlock where
  message : BeaconBlock
deriving DecidableEq

/-- `validator_store::Error` as `publish_block` tells it apart: `UnableToSign(NotLeader)`,
and every other error by its `Debug` text. -/
inductive VSError where
  | notLeader
  | other (debug : String)
deriving DecidableEq

/-- What one candidate answers to one run of the closure. -/
structure Responses where
  block : Except String BeaconBlock
  sign : Except VSError Unit
  post : Except String Unit

/-- A request of the closure, with its outcome where later steps depend on it. -/
inductive Call where
  | getBlock (node : String) (ty : BlockType) (slot : Nat) (graffiti : Option Graffiti)
  | signBlock (node : String) (currentSlot : Nat) (signed : Bool)
  | postBlock (node : String) (ty : BlockType) (accepted : Bool)
deriving DecidableEq

/-- A `sign_block` call that returned a signed block. -/
def Call.isSigned : Call → Bool
  | .signBlock _ _ true => true
  | _ => false

/-- A post the beacon node rejected. -/
def Call.isRejectedPost : Call → Bool
  | .postBlock _ _ false => true
  | _ => false

/-- How many times the validator store handed out a signed block. -/
def signedCount (log : List Call) : Nat := log.countP Call.isSigned

/-- How many posts were rejected. -/
def rejectedPostCount (log : List Call) : Nat := log.countP Call.isRejectedPost

/-! ## The closure -/

/-- The `map_err` of a validator-store signature: `NotLeader` becomes `notLeader`, any
other error `Recoverable` with its `Debug` text after `what`. -/
def notLeaderOr (notLeader : BlockError) (what : String) : VSError → BlockError
  | .notLeader => notLeader
  | .other debug => .recoverable (what ++ debug)

/-- The error mapping of `randao_reveal`. -/
def randaoError : VSError → BlockError :=
  notLeaderOr .randaoNotLeader "Unable to produce randao reveal signature: "

/-- The error mapping of `sign_block`. -/
def signBlockError : VSError → BlockError :=
  notLeaderOr .signBlockNotLeader "Unable to sign block: "

/-- The closure `publish_block` hands `first_success`, on the node `node`. -/
def produceAndPublish (ty : BlockType) (slot currentSlot : Nat) (graffiti : Option Graffiti)
    (proposerIndex : Option Nat) (node : String) (r : Responses) :
    Except BlockError SignedBeaconBlock × List Call :=
  let fetched := [Call.getBlock node ty slot graffiti]
  match r.block with
  | .error e =>
    (.error (.recoverable ("Error from beacon node when producing block: " ++ e)), fetched)
  | .ok block =>
    if proposerIndex ≠ some block.proposerIndex then
      (.error (.recoverable "Proposer index does not match block proposer. Beacon chain re-orged"),
        fetched)
    else
      match r.sign with
      | .error e => (.error (signBlockError e), fetched ++ [.signBlock node currentSlot false])
      | .ok () =>
        match r.post with
        | .error e =>
          (.error (.irrecoverable ("Error from beacon node when publishing block: " ++ e)),
            fetched ++ [.signBlock node currentSlot true, .postBlock node ty false])
        | .ok () =>
          (.ok ⟨block⟩, fetched ++ [.signBlock node currentSlot true, .postBlock node ty true])

section Closure

variable (ty : BlockType) (slot currentSlot : Nat) (graffiti : Option Graffiti)
  (proposerIndex : Option Nat) (node : String) (r : Responses)

/-- How one run of the closure ends: it fails before a signature is handed out, with a
`Recoverable` or not-leader error; or it signs and the node rejects the post, which is
`Irrecoverable`; or it signs and the post is accepted. -/
theorem produceAndPublish_cases :
    (∃ e, (produceAndPublish ty slot currentSlot graffiti proposerIndex node r).1 = .error e ∧
      signedCount (produceAndPublish ty slot currentSlot graffiti proposerIndex node r).2 = 0 ∧
      rejectedPostCount
        (produceAndPublish ty slot currentSlot graffiti proposerIndex node r).2 = 0 ∧
      (FallbackError.requestFailed e).isIrrecoverable = false) ∨
    (∃ e, (produceAndPublish ty slot currentSlot graffiti proposerIndex node r).1 = .error e ∧
      signedCount (produceAndPublish ty slot currentSlot graffiti proposerIndex node r).2 = 1 ∧
      rejectedPostCount
        (produceAndPublish ty slot currentSlot graffiti proposerIndex node r).2 = 1 ∧
      (FallbackError.requestFailed e).isIrrecoverable = true) ∨
    (∃ b, (produceAndPublish ty slot currentSlot graffiti proposerIndex node r).1 = .ok b ∧
      signedCount (produceAndPublish ty slot currentSlot graffiti proposerIndex node r).2 = 1 ∧
      rejectedPostCount
        (produceAndPublish ty slot currentSlot graffiti proposerIndex node r).2 = 0) := by
  unfold produceAndPublish
  split
  · exact .inl ⟨_, rfl, rfl, rfl, rfl⟩
  · split_ifs
    · exact .inl ⟨_, rfl, rfl, rfl, rfl⟩
    · split
      · rename_i e _
        exact .inl ⟨_, rfl, rfl, rfl, by cases e <;> rfl⟩
      · split
        · exact .inr (.inl ⟨_, rfl, rfl, rfl, rfl⟩)
        · exact .inr (.inr ⟨_, rfl, rfl, rfl⟩)

/-- One run of the closure signs once per rejected post, plus once when it succeeds. -/
theorem produceAndPublish_sign_balance :
    signedCount (produceAndPublish ty slot currentSlot graffiti proposerIndex node r).2 =
      rejectedPostCount (produceAndPublish ty slot currentSlot graffiti proposerIndex node r).2 +
        if (produceAndPublish ty slot currentSlot graffiti proposerIndex node r).1.toBool
        then 1 else 0 := by
  rcases produceAndPublish_cases ty slot currentSlot graffiti proposerIndex node r with
    ⟨e, he, hs, hp, -⟩ | ⟨e, he, hs, hp, -⟩ | ⟨b, hb, hs, hp⟩ <;> simp [*, Except.toBool]

/-- A run of the closure that signed and still failed failed with `Irrecoverable`. -/
theorem produceAndPublish_failed_after_signing {e : BlockError}
    (he : (produceAndPublish ty slot currentSlot graffiti proposerIndex node r).1 = .error e)
    (hs : 0 < signedCount (produceAndPublish ty slot currentSlot graffiti proposerIndex node r).2) :
    (FallbackError.requestFailed e).isIrrecoverable = true := by
  rcases produceAndPublish_cases ty slot currentSlot graffiti proposerIndex node r with
    ⟨_, _, h0, -⟩ | ⟨e', he', -, -, hirr⟩ | ⟨_, hb, -⟩
  · omega
  · rw [he] at he'
    cases he'
    exact hirr
  · rw [he] at hb
    cases hb

end Closure

/-! ## `publish_block` -/

/-- The graffiti `publish_block` sends: the graffiti file's entry for the key if the
service has a file and it loads, else the validator store's, else the service's own. -/
def selectGraffiti (file : Option (Except String (Option Graffiti)))
    (store dflt : Option Graffiti) : Option Graffiti :=
  ((file.bind fun r => match r with
    | .ok g => g
    | .error _ => none).or store).or dflt

/-- What `BlockService` reads of its own configuration. -/
structure Inner where
  graffiti : Option Graffiti
  privateTxProposals : Bool
  genesisSlot : Nat
  bellatrixForkEpoch : Option Nat
  slotsPerEpoch : Nat

/-- Everything outside the service that one `publish_block` run reads: the slot clock,
the validator store's answers for the key, the graffiti file's entry (if the service has
a file), and the candidates `first_success` meets, with their answers. -/
structure PublishEnv where
  now : Option Nat
  randaoReveal : Except VSError Unit
  graffitiFile : Option (Except String (Option Graffiti))
  storeGraffiti : Option Graffiti
  proposerIndex : Option Nat
  candidates : List (Candidate Responses)

variable (render : Errors BlockError → String)

/-- `BlockService::publish_block` for the payload type `ty`: its result and its requests. -/
def publishBlock (svc : Inner) (ty : BlockType) (slot : Nat) (env : PublishEnv) :
    Except BlockError Unit × List Call :=
  match env.now with
  | none => (.error (.recoverable "Unable to determine current slot from clock"), [])
  | some currentSlot =>
    match env.randaoReveal with
    | .error e => (.error (randaoError e), [])
    | .ok () =>
      let graffiti := selectGraffiti env.graffitiFile env.storeGraffiti svc.graffiti
      let run := firstSuccess (produceAndPublish ty slot currentSlot graffiti env.proposerIndex)
        env.candidates
      (((run.1.mapError (BlockError.ofErrors render)).map fun _ => ()), run.2)

theorem toBool_map_mapError {ε ε' α β : Type} (x : Except ε α) (f : ε → ε') (g : α → β) :
    ((x.mapError f).map g).toBool = x.toBool := by
  cases x <;> rfl

section Publish

variable (svc : Inner) (ty : BlockType) (slot : Nat) (env : PublishEnv)

/-- The closure's run on the nodes, once the clock and the randao reveal have answered. -/
abbrev nodesRun (currentSlot : Nat) :=
  firstSuccess (produceAndPublish ty slot currentSlot
    (selectGraffiti env.graffitiFile env.storeGraffiti svc.graffiti) env.proposerIndex)
    env.candidates

/-- `publish_block` either stops before the beacon nodes with nothing requested, or
returns what `first_success` returned, its errors folded by `From`. -/
theorem publishBlock_cases :
    ((publishBlock render svc ty slot env).2 = [] ∧
      ((publishBlock render svc ty slot env).1 =
          .error (.recoverable "Unable to determine current slot from clock") ∨
        ∃ e, (publishBlock render svc ty slot env).1 = .error (randaoError e))) ∨
    ∃ currentSlot, publishBlock render svc ty slot env =
      ((((nodesRun svc ty slot env currentSlot).1.mapError (BlockError.ofErrors render)).map
        fun _ => ()), (nodesRun svc ty slot env currentSlot).2) := by
  unfold publishBlock
  cases env.now with
  | none => exact .inl ⟨rfl, .inl rfl⟩
  | some currentSlot =>
    cases env.randaoReveal with
    | error e => exact .inl ⟨rfl, .inr ⟨e, rfl⟩⟩
    | ok u => exact .inr ⟨currentSlot, rfl⟩

/-- Over a whole `publish_block` run, `sign_block` hands out one signed block per
rejected post, plus one when the run succeeds. -/
theorem publishBlock_sign_balance :
    signedCount (publishBlock render svc ty slot env).2 =
      rejectedPostCount (publishBlock render svc ty slot env).2 +
        if (publishBlock render svc ty slot env).1.toBool then 1 else 0 := by
  rcases publishBlock_cases render svc ty slot env with ⟨hlog, h | ⟨e, h⟩⟩ | ⟨currentSlot, h⟩
  · simp [hlog, h, signedCount, rejectedPostCount, Except.toBool]
  · simp [hlog, h, signedCount, rejectedPostCount, Except.toBool]
  · have hbal := firstSuccessAux_countP_balance _ Call.isSigned Call.isRejectedPost
      (produceAndPublish_sign_balance ty slot currentSlot
        (selectGraffiti env.graffitiFile env.storeGraffiti svc.graffiti) env.proposerIndex)
      [] env.candidates
    rw [h, toBool_map_mapError]
    exact hbal

/-- A run that ends `Recoverable` never got a signed block. -/
theorem publishBlock_recoverable_signed_nothing {msg : String}
    (h : (publishBlock render svc ty slot env).1 = .error (.recoverable msg)) :
    signedCount (publishBlock render svc ty slot env).2 = 0 := by
  rcases publishBlock_cases render svc ty slot env with ⟨hlog, -⟩ | ⟨currentSlot, hpb⟩
  · simp [hlog, signedCount]
  rw [hpb] at h ⊢
  cases hrun : (nodesRun svc ty slot env currentSlot).1 with
  | ok _ => simp [hrun, Except.mapError, Except.map] at h
  | error es =>
    simp only [hrun, Except.mapError, Except.map, Except.error.injEq] at h
    rcases ofErrors_cases render es with ⟨hirr, -⟩ | ⟨-, hall⟩
    · rw [hirr] at h
      cases h
    · exact firstSuccess_countP_eq_zero _ Call.isSigned FallbackError.isIrrecoverable
        (fun _ _ _ he hs => produceAndPublish_failed_after_signing _ _ _ _ _ _ _ he hs) hrun hall

/-- `SignBlockNotLeader` never leaves `publish_block`: a not-leader signature inside the
closure is folded into `Recoverable` by the `?` after `first_success`. -/
theorem publishBlock_ne_signBlockNotLeader :
    (publishBlock render svc ty slot env).1 ≠ .error .signBlockNotLeader := by
  rcases publishBlock_cases render svc ty slot env with
    ⟨-, h | ⟨e, h⟩⟩ | ⟨currentSlot, h⟩
  · simp [h]
  · cases e <;> simp [h, randaoError, notLeaderOr]
  · rw [h]
    cases (nodesRun svc ty slot env currentSlot).1 with
    | ok _ => simp [Except.mapError, Except.map]
    | error es =>
      rcases ofErrors_cases render es with ⟨hc, -⟩ | ⟨hc, -⟩ <;>
        simp [Except.mapError, Except.map, hc]

end Publish

end SafeStake.Block
