import SafeStake.Block.Publish

/-!
# `BlockService::do_update`: one publication task per proposer

`do_update` reads the slot clock, skips an expired notification and the genesis slot,
and spawns one task per proposer. A task proposes a blinded block first when private
transactions are enabled and the slot is past the merge, and falls back to a full block
only when the blinded run ended `Recoverable` ("cannot fallback because block was
signed" otherwise). The task ends with one log line chosen by the error.

- `runTask_sign_balance`: a whole task, fallback included, signs once per rejected post
  plus once if it succeeds, since a `Recoverable` blinded run signed nothing. With no
  rejected post a task signs at most once; with one, `first_success` moves to the next
  node and signs again (`two_nodes_sign_twice`).
- `runTask_never_reports_notLeader`: the `SignBlockNotLeader` arm is dead; a non-leader
  operator's task ends in the `crit` arm, after falling back from blinded to full
  (`notLeader_falls_back_and_crits`).
- `startUpdateService_duties_nodup`: the service never spawns two tasks for one slot and
  validator, as long as no slot is notified twice and no proposer is listed twice;
  `do_update` itself does not deduplicate.
- `build_ok_iff`, `build_error_names_missing`: `BlockServiceBuilder::build` succeeds
  exactly when its four required parts are set, and otherwise names the first missing.

Mirroring notes:
- The doc comment on `BlockService` says it "attempts to produce attestations for any
  block producer(s) at the start of the epoch". The code does not: `do_update` publishes
  blocks, for the proposers of each notification, in the notification's own slot. The
  model follows the code.
-/

namespace SafeStake.Block

/-! ## `BlockServiceBuilder` -/

/-- `BlockServiceBuilder`, over the types of the validator store `VS`, slot clock `SC`,
beacon-node fallback `BN`, runtime context `CX` and graffiti file `GF`. -/
structure BlockServiceBuilder (VS SC BN CX GF : Type) where
  validatorStore : Option VS
  slotClock : Option SC
  beaconNodes : Option BN
  context : Option CX
  graffiti : Option Graffiti
  graffitiFile : Option GF
  privateTxProposals : Bool

/-- The built service's parts. -/
structure BlockService (VS SC BN CX GF : Type) where
  validatorStore : VS
  slotClock : SC
  beaconNodes : BN
  context : CX
  graffiti : Option Graffiti
  graffitiFile : Option GF
  privateTxProposals : Bool

namespace BlockServiceBuilder

variable {VS SC BN CX GF : Type}

/-- `BlockServiceBuilder::new`: nothing set, private transactions off. -/
def new : BlockServiceBuilder VS SC BN CX GF :=
  ⟨none, none, none, none, none, none, false⟩

/-- `Option::ok_or(msg)?`: the part, or `Err(msg)`. -/
def require {α : Type} (part : Option α) (msg : String) : Except String α :=
  match part with
  | some a => .ok a
  | none => .error msg

/-- `BlockServiceBuilder::build`: the four required parts in order, each missing one
reported by name; the optional parts are copied. -/
def build (b : BlockServiceBuilder VS SC BN CX GF) : Except String (BlockService VS SC BN CX GF) :=
  (require b.validatorStore "Cannot build BlockService without validator_store").bind fun vs =>
  (require b.slotClock "Cannot build BlockService without slot_clock").bind fun sc =>
  (require b.beaconNodes "Cannot build BlockService without beacon_node").bind fun bn =>
  (require b.context "Cannot build BlockService without runtime_context").bind fun cx =>
  .ok ⟨vs, sc, bn, cx, b.graffiti, b.graffitiFile, b.privateTxProposals⟩

/-- `build` succeeds exactly when the four required parts are set, and then keeps every
part as set. -/
theorem build_ok_iff (b : BlockServiceBuilder VS SC BN CX GF) (s : BlockService VS SC BN CX GF) :
    b.build = .ok s ↔
      b.validatorStore = some s.validatorStore ∧ b.slotClock = some s.slotClock ∧
      b.beaconNodes = some s.beaconNodes ∧ b.context = some s.context ∧
      s.graffiti = b.graffiti ∧ s.graffitiFile = b.graffitiFile ∧
      s.privateTxProposals = b.privateTxProposals := by
  obtain ⟨_ | vs, _ | sc, _ | bn, _ | cx, g, gf, p⟩ := b <;>
    obtain ⟨vs', sc', bn', cx', g', gf', p'⟩ := s <;>
    simp [build, require, Except.bind, eq_comm]

/-- A failed `build` names the first required part that is missing, in the order
validator store, slot clock, beacon nodes, runtime context. -/
theorem build_error_names_missing (b : BlockServiceBuilder VS SC BN CX GF) (msg : String)
    (h : b.build = .error msg) :
    (b.validatorStore = none ∧ msg = "Cannot build BlockService without validator_store") ∨
    (b.validatorStore.isSome ∧ b.slotClock = none ∧
      msg = "Cannot build BlockService without slot_clock") ∨
    (b.validatorStore.isSome ∧ b.slotClock.isSome ∧ b.beaconNodes = none ∧
      msg = "Cannot build BlockService without beacon_node") ∨
    (b.validatorStore.isSome ∧ b.slotClock.isSome ∧ b.beaconNodes.isSome ∧ b.context = none ∧
      msg = "Cannot build BlockService without runtime_context") := by
  obtain ⟨_ | vs, _ | sc, _ | bn, _ | cx, g, gf, p⟩ := b <;>
    simp_all [build, require, Except.bind, eq_comm]

end BlockServiceBuilder

/-! ## `do_update` -/

/-- Public key bytes of a proposer. -/
abbrev PublicKeyBytes := List UInt8

/-- `BlockServiceNotification`: the slot and its local proposers. -/
structure BlockServiceNotification where
  slot : Nat
  blockProposers : List PublicKeyBytes

/-- `Epoch::start_slot`: the epoch's first slot, the product saturating at `u64::MAX`. -/
def startSlot (epoch slotsPerEpoch : Nat) : Nat := min (epoch * slotsPerEpoch) (2 ^ 64 - 1)

/-- `merge_slot`: the Bellatrix fork's first slot, or `Epoch::max_value()`'s. -/
def mergeSlot (svc : Inner) : Nat :=
  startSlot (svc.bellatrixForkEpoch.getD (2 ^ 64 - 1)) svc.slotsPerEpoch

/-- A task `do_update` spawns: the slot, the proposer, and whether it goes blinded first. -/
structure PublicationTask where
  slot : Nat
  validatorPubkey : PublicKeyBytes
  blindedFirst : Bool
deriving DecidableEq

/-- `do_update`: `Err(())` without a slot, no task for an expired notification or the
genesis slot, else one task per proposer. -/
def doUpdate (svc : Inner) (now : Option Nat) (notification : BlockServiceNotification) :
    Except Unit (List PublicationTask) :=
  match now with
  | none => .error ()
  | some slot =>
    if notification.slot ≠ slot then .ok []
    else if slot = svc.genesisSlot then .ok []
    else .ok (notification.blockProposers.map fun pk =>
      ⟨slot, pk, svc.privateTxProposals && decide (slot ≥ mergeSlot svc)⟩)

/-- Every task `do_update` spawns is for the current slot and goes blinded first exactly
when private transactions are proposed at or after the merge slot. -/
theorem doUpdate_tasks {svc : Inner} {now : Option Nat} {n : BlockServiceNotification}
    {tasks : List PublicationTask} (h : doUpdate svc now n = .ok tasks) :
    tasks = [] ∨
      (now = some n.slot ∧ n.slot ≠ svc.genesisSlot ∧
        tasks.map PublicationTask.validatorPubkey = n.blockProposers ∧
        ∀ t ∈ tasks, t.slot = n.slot ∧
          t.blindedFirst = (svc.privateTxProposals && decide (n.slot ≥ mergeSlot svc))) := by
  unfold doUpdate at h
  split at h
  · cases h
  · split_ifs at h with hslot hgen <;> cases h
    · exact .inl rfl
    · exact .inl rfl
    · obtain rfl := not_not.mp hslot
      refine .inr ⟨rfl, hgen, by simp [Function.comp_def], fun t ht => ?_⟩
      obtain ⟨pk, -, rfl⟩ := List.mem_map.mp ht
      exact ⟨rfl, rfl⟩

/-- `start_update_service`'s loop over the notifications it receives, each with the slot
clock's reading when `do_update` handles it: the result of `do_update` is dropped
(`.ok()`) and the tasks it spawned are collected in order. -/
def startUpdateService (svc : Inner) :
    List (Option Nat × BlockServiceNotification) → List PublicationTask
  | [] => []
  | (now, n) :: rest =>
    (match doUpdate svc now n with
      | .ok tasks => tasks
      | .error () => []) ++ startUpdateService svc rest

/-- The proposer duty a task publishes for: its slot and its validator. -/
def PublicationTask.duty (t : PublicationTask) : Nat × PublicKeyBytes :=
  (t.slot, t.validatorPubkey)

/-- The slots of the notifications `do_update` handles in their own slot. -/
def handledSlots : List (Option Nat × BlockServiceNotification) → List Nat
  | [] => []
  | (now, n) :: rest => (if now = some n.slot then [n.slot] else []) ++ handledSlots rest

/-- The tasks of one `do_update` call: pairwise different duties, when its proposers are,
all in the notification's slot, which was the slot clock's reading. -/
theorem doUpdate_duties {svc : Inner} {now : Option Nat} {n : BlockServiceNotification}
    {tasks : List PublicationTask} (h : doUpdate svc now n = .ok tasks)
    (hp : n.blockProposers.Nodup) :
    (tasks.map PublicationTask.duty).Nodup ∧ ∀ t ∈ tasks, now = some n.slot ∧ t.slot = n.slot := by
  rcases doUpdate_tasks h with rfl | ⟨hnow, -, hkeys, hall⟩
  · simp
  · refine ⟨?_, fun t ht => ⟨hnow, (hall t ht).1⟩⟩
    have hmap : tasks.map PublicationTask.duty = n.blockProposers.map (Prod.mk n.slot) := by
      rw [← hkeys, List.map_map]
      exact List.map_congr_left fun t ht => by simp [PublicationTask.duty, (hall t ht).1]
    rw [hmap]
    exact hp.map fun _ _ h => (Prod.mk.inj h).2

theorem slot_mem_handledSlots (svc : Inner) :
    ∀ (notes : List (Option Nat × BlockServiceNotification)) (t : PublicationTask),
      t ∈ startUpdateService svc notes → t.slot ∈ handledSlots notes
  | [], _, h => by cases h
  | (now, n) :: rest, t, h => by
    rcases List.mem_append.mp h with hmem | hmem
    · split at hmem
      · rename_i tasks hd
        rcases doUpdate_tasks hd with rfl | ⟨rfl, -, -, hall⟩
        · cases hmem
        · simp [handledSlots, (hall t hmem).1]
      · cases hmem
    · exact List.mem_append_right _ (slot_mem_handledSlots svc rest t hmem)

/-- The service never spawns two tasks for one proposer duty: over any sequence of
notifications in which no slot is handled twice and no notification lists a proposer
twice, the tasks `start_update_service` spawns are for pairwise different (slot,
validator) pairs. -/
theorem startUpdateService_duties_nodup (svc : Inner) :
    ∀ (notes : List (Option Nat × BlockServiceNotification)), (handledSlots notes).Nodup →
      (∀ p ∈ notes, p.2.blockProposers.Nodup) →
      ((startUpdateService svc notes).map PublicationTask.duty).Nodup
  | [], _, _ => List.nodup_nil
  | (now, n) :: rest, hslots, hprops => by
    rw [handledSlots, List.nodup_append] at hslots
    have hrest := startUpdateService_duties_nodup svc rest hslots.2.1
      fun p hp => hprops p (List.mem_cons_of_mem _ hp)
    rw [startUpdateService, List.map_append, List.nodup_append]
    refine ⟨?_, hrest, ?_⟩
    · split
      · exact (doUpdate_duties ‹_› (hprops _ (List.mem_cons_self _ _))).1
      · exact List.nodup_nil
    · split
      · rename_i tasks hd
        obtain ⟨-, hall⟩ := doUpdate_duties hd (hprops _ (List.mem_cons_self _ _))
        intro d hd₁ hd₂
        obtain ⟨t, ht, rfl⟩ := List.mem_map.mp hd₁
        obtain ⟨t', ht', heq⟩ := List.mem_map.mp hd₂
        obtain ⟨hnow, hslot⟩ := hall t ht
        have h' := slot_mem_handledSlots svc rest t' ht'
        rw [show t'.slot = t.slot from congrArg Prod.fst heq, hslot] at h'
        exact hslots.2.2 (by simp [hnow]) h'
      · exact List.disjoint_nil_left _

/-- Two notifications in their own slots, the first with two proposers: three tasks, for
three different duties. -/
theorem distinct_slots_distinct_duties :
    (handledSlots [(some 5, ⟨5, [[1], [2]]⟩), (some 6, ⟨6, [[1]]⟩)]).Nodup ∧
    (∀ p ∈ [(some 5, (⟨5, [[1], [2]]⟩ : BlockServiceNotification)), (some 6, ⟨6, [[1]]⟩)],
      p.2.blockProposers.Nodup) ∧
    ((startUpdateService ⟨none, false, 0, none, 32⟩
      [(some 5, ⟨5, [[1], [2]]⟩), (some 6, ⟨6, [[1]]⟩)]).map PublicationTask.duty).Nodup :=
  ⟨by decide, by decide, startUpdateService_duties_nodup _ _ (by decide) (by decide)⟩

/-- The severity of a task's closing log line. -/
inductive Level where
  | info
  | error
  | crit
deriving DecidableEq

/-- The line a task ends with, by its error: none on success. -/
def report : Except BlockError Unit → Option (Level × String)
  | .ok _ => none
  | .error .randaoNotLeader => some (.error, "Error whilst producing block")
  | .error .signBlockNotLeader => some (.info, "Not a leader for proposing this block")
  | .error _ => some (.crit, "Error whilst producing block")

theorem report_eq_notLeader_iff (r : Except BlockError Unit) :
    report r = some (.info, "Not a leader for proposing this block") ↔
      r = .error .signBlockNotLeader := by
  rcases r with (_ | _ | _ | _ | _) | _ <;> simp [report]

variable (render : Errors BlockError → String)

/-- The body of a task: the blinded run, and the full run after a `Recoverable` one;
or the full run alone. Its result, and the requests of both runs in order. -/
def runTask (svc : Inner) (t : PublicationTask) (blindedEnv fullEnv : PublishEnv) :
    Except BlockError Unit × List Call :=
  if t.blindedFirst then
    let blinded := publishBlock render svc .blinded t.slot blindedEnv
    match blinded.1 with
    | .error (.recoverable _) =>
      let full := publishBlock render svc .full t.slot fullEnv
      (full.1, blinded.2 ++ full.2)
    | _ => blinded
  else publishBlock render svc .full t.slot fullEnv

section Task

variable (svc : Inner) (t : PublicationTask) (blindedEnv fullEnv : PublishEnv)

/-- A task ends with the result of its last `publish_block` run: the full one, run only
after a blinded run that ended `Recoverable`, or its only one. -/
theorem runTask_cases :
    (∃ msg, t.blindedFirst = true ∧
      (publishBlock render svc .blinded t.slot blindedEnv).1 = .error (.recoverable msg) ∧
      runTask render svc t blindedEnv fullEnv =
        ((publishBlock render svc .full t.slot fullEnv).1,
          (publishBlock render svc .blinded t.slot blindedEnv).2 ++
            (publishBlock render svc .full t.slot fullEnv).2)) ∨
    (∃ ty env,
      runTask render svc t blindedEnv fullEnv = publishBlock render svc ty t.slot env) := by
  unfold runTask
  split
  · rename_i hb
    dsimp only
    split
    · rename_i msg hrec
      exact .inl ⟨msg, hb, hrec, rfl⟩
    · exact .inr ⟨_, _, rfl⟩
  · exact .inr ⟨_, _, rfl⟩

/-- A whole task, fallback included, gets one signed block per rejected post, plus one
if it succeeds. -/
theorem runTask_sign_balance :
    signedCount (runTask render svc t blindedEnv fullEnv).2 =
      rejectedPostCount (runTask render svc t blindedEnv fullEnv).2 +
        if (runTask render svc t blindedEnv fullEnv).1.toBool then 1 else 0 := by
  rcases runTask_cases render svc t blindedEnv fullEnv with
    ⟨msg, -, hrec, h⟩ | ⟨ty, env, h⟩
  · have hzero := publishBlock_recoverable_signed_nothing render svc .blinded t.slot blindedEnv hrec
    have hbal := publishBlock_sign_balance render svc .blinded t.slot blindedEnv
    have hfull := publishBlock_sign_balance render svc .full t.slot fullEnv
    rw [hrec] at hbal
    simp only [Except.toBool, Bool.false_eq_true, if_false, Nat.add_zero] at hbal
    simp only [h, signedCount, rejectedPostCount, List.countP_append] at hzero hbal hfull ⊢
    omega
  · rw [h]
    exact publishBlock_sign_balance render svc ty t.slot env

/-- No task ends in the `SignBlockNotLeader` arm. -/
theorem runTask_never_reports_notLeader :
    report (runTask render svc t blindedEnv fullEnv).1 ≠
      some (.info, "Not a leader for proposing this block") := by
  rw [Ne, report_eq_notLeader_iff]
  rcases runTask_cases render svc t blindedEnv fullEnv with ⟨-, -, -, h⟩ | ⟨ty, env, h⟩ <;>
    rw [h] <;> exact publishBlock_ne_signBlockNotLeader render svc _ t.slot _

end Task

/-- Two beacon nodes both serve the proposer's block and both get it signed; the first
rejects the post. `first_success` moves on to the second, which fetches and signs again:
one task, two signed blocks. -/
theorem two_nodes_sign_twice (svc : Inner) :
    signedCount (runTask render svc ⟨1, [], false⟩
        ⟨some 1, .ok (), none, none, some 7, []⟩
        ⟨some 1, .ok (), none, none, some 7,
          [.tried "a" ⟨.ok ⟨7⟩, .ok (), .error "rejected"⟩,
            .tried "b" ⟨.ok ⟨7⟩, .ok (), .ok ()⟩]⟩).2 = 2 :=
  rfl

/-- A proposer that is not the leader, on one node that serves its block: the blinded run
ends `Recoverable`, the task falls back to a full block, signs nothing there either, and
reports through the `crit` arm. -/
theorem notLeader_falls_back_and_crits (svc : Inner) :
    let env : PublishEnv :=
      ⟨some 1, .ok (), none, none, some 7, [.tried "a" ⟨.ok ⟨7⟩, .error .notLeader, .ok ()⟩]⟩
    (publishBlock render svc .blinded 1 env).1 =
      .error (.recoverable (render ⟨[("a", .requestFailed .signBlockNotLeader)]⟩)) ∧
    report (runTask render svc ⟨1, [], true⟩ env env).1 =
      some (.crit, "Error whilst producing block") ∧
    (runTask render svc ⟨1, [], true⟩ env env).2 =
      [.getBlock "a" .blinded 1 svc.graffiti, .signBlock "a" 1 false,
        .getBlock "a" .full 1 svc.graffiti, .signBlock "a" 1 false] :=
  ⟨rfl, rfl, rfl⟩

end SafeStake.Block
