import SafeStake.Mempool.Lifecycle

/-!
# Spawn's two inserts, interleaved with the rest of the process

`Mempool::spawn` awaits twice before its mempool is booted: inside
`handle_clients_transactions`, on the write lock of the transaction handler map, and inside
`handle_mempool_messages`, on the write lock of the mempool handler map. In between, every
other task of the process runs: the receive loops deliver, exit signals fire, other spawns
start and finish. `Node.step` takes the two inserts as one step; here they come apart. A
spawn inserts its transaction handler and is then in flight (`Stage.event (.spawn ..)`);
it resumes later (`Stage.resume i`), inserts its mempool handler and looks its key up in
the committee. Every other event is a step of `Node.step`.

- `reachable_boot`: the atomic process is the special case in which every spawn resumes
  at once.
- `reachable_wellFormed`: under any scheduling, every mempool that serves a
  `validator_id` (through either map, or as the mempool of a spawn in flight) serves only
  that one. Each kind of delivery therefore reaches one mempool of the id it is for, the
  one its own map names; `Safety.lean` and `Delivery.lean` build on this.
- `serial_window`: if no spawn under a `validator_id` starts while another under that id
  is in flight, then while one is, client transactions for the id already reach the new
  mempool and peer frames do not; at any other time both reach the same mempool.
- `idle_wellFormed`: so once no spawn is in flight, `Node.WellFormed` holds again.
- `overlapping_spawns_split_maps`: without that discipline, two spawns under one id can
  leave the maps sending it to two different mempools, with no spawn in flight.

Mirroring notes:
- The new mempool's peer-side channels are made by `handle_mempool_messages`; here they
  exist from the first insert on, and nothing is sent to them before the second. Its
  tasks may drop their receivers in between once the exit signal has fired, as tasks
  spawned after the signal would.
-/

namespace SafeStake.Mempool

/-- The process with spawns in flight: `inFlight i` holds the `validator_id` and key of
the spawn that made mempool `i`, from its first insert until it resumes. -/
structure Boot (K : Type) where
  node : Node K
  inFlight : Nat → Option (Nat × K)

/-- What can happen next: an event of the process, where a spawn now runs up to its first
insert only, or the spawn that made mempool `i` resuming. -/
inductive Stage (K : Type) where
  | event (e : Event K)
  | resume (i : Nat)

/-- A spawn event. -/
def Event.isSpawn {K : Type} : Event K → Bool
  | .spawn _ _ => true
  | _ => false

/-- The events among a list of stages, in order. -/
def Stage.events {K : Type} : List (Stage K) → List (Event K)
  | [] => []
  | .event e :: sts => e :: events sts
  | .resume _ :: sts => events sts

namespace Boot

variable {K : Type}

/-- The process before any spawn. -/
def init : Boot K := ⟨.init, fun _ => none⟩

/-- No spawn under `vid` is in flight. -/
def Idle (b : Boot K) (vid : Nat) : Prop := ∀ i name, b.inFlight i ≠ some (vid, name)

/-- The spawn discipline: a spawn under `vid` starts only while no other spawn under
`vid` is in flight. -/
def Serial (b : Boot K) : Stage K → Prop
  | .event (.spawn vid _) => b.Idle vid
  | _ => True

/-- Where client transactions and peer frames for `vid` go. While the spawn that made
mempool `i` is in flight, and it is the only one under `vid`, the transaction handler map
already sends `vid` to `i` and the mempool handler map does not; otherwise both maps send
`vid` to the same mempool, or neither has it. -/
def Window (b : Boot K) (vid : Nat) : Prop :=
  (∃ i name, b.inFlight i = some (vid, name) ∧ b.node.txHandlers vid = some i ∧
      b.node.mempoolHandlers vid ≠ some i ∧
      ∀ j name', b.inFlight j = some (vid, name') → j = i) ∨
    (b.Idle vid ∧ b.node.mempoolHandlers vid = b.node.txHandlers vid)

/-- Mempool `i` serves `vid`: a handler map sends `vid` to it, or it was made by a spawn
under `vid` that is still in flight. -/
def Serves (b : Boot K) (vid i : Nat) : Prop :=
  b.node.txHandlers vid = some i ∨ b.node.mempoolHandlers vid = some i ∨
    ∃ name, b.inFlight i = some (vid, name)

/-- What every state keeps of its own structure, under any scheduling: the mempools
spawned so far are numbered `0, 1, ..` in spawn order, a mempool that serves an id has
been spawned, and no mempool serves two ids. -/
structure WellFormed (b : Boot K) : Prop where
  instances_isSome : ∀ i, (b.node.instances i).isSome ↔ i < b.node.spawned
  spawned : ∀ vid i, b.Serves vid i → i < b.node.spawned
  owner : ∀ vid vid' i, b.Serves vid i → b.Serves vid' i → vid = vid'

variable (kc : Codec K) (inCommittee : K → Bool)

/-- One step. A spawn runs `handle_clients_transactions` and is then in flight; when it
resumes it runs `handle_mempool_messages` and the committee lookup of `Mempool::spawn`;
every other event is a step of `Node.step`. -/
def step (b : Boot K) : Stage K → Option (Boot K × Option String)
  | .event (.spawn vid name) =>
    some (⟨b.node.handleClientsTransactions vid,
      Function.update b.inFlight b.node.spawned (some (vid, name))⟩, none)
  | .event e => (b.node.step kc inCommittee e).map fun r => (⟨r.1, b.inFlight⟩, r.2)
  | .resume i => (b.inFlight i).map fun (vid, name) =>
    (⟨b.node.handleMempoolMessages vid i, Function.update b.inFlight i none⟩,
      if inCommittee name then none else some "Our public key is not in the committee")

theorem step_event {b : Boot K} {e : Event K} (he : e.isSpawn = false) :
    step kc inCommittee b (.event e) =
      (b.node.step kc inCommittee e).map fun r => (⟨r.1, b.inFlight⟩, r.2) := by
  cases e <;> first | rfl | cases he

theorem step_event_eq_some {b b' : Boot K} {e : Event K} {p : Option String}
    (he : e.isSpawn = false) :
    step kc inCommittee b (.event e) = some (b', p) ↔
      ∃ s', b.node.step kc inCommittee e = some (s', p) ∧ b' = ⟨s', b.inFlight⟩ := by
  rw [step_event kc inCommittee he, Option.map_eq_some']
  constructor
  · rintro ⟨⟨s', p'⟩, h, hh⟩
    cases hh
    exact ⟨s', h, rfl⟩
  · rintro ⟨s', h, rfl⟩
    exact ⟨(s', p), h, rfl⟩

/-- The steps, one constructor for each way `step` can go. -/
inductive Transition (b : Boot K) : Stage K → Boot K → Option String → Prop where
  | clients (vid : Nat) (name : K) :
      Transition b (.event (.spawn vid name))
        ⟨b.node.handleClientsTransactions vid,
          Function.update b.inFlight b.node.spawned (some (vid, name))⟩ none
  | resume {i vid : Nat} {name : K} (hi : b.inFlight i = some (vid, name)) :
      Transition b (.resume i)
        ⟨b.node.handleMempoolMessages vid i, Function.update b.inFlight i none⟩
        (if inCommittee name then none else some "Our public key is not in the committee")
  | event {e : Event K} {s' : Node K} {p : Option String} (he : e.isSpawn = false)
      (h : Node.Transition kc inCommittee b.node e s' p) :
      Transition b (.event e) ⟨s', b.inFlight⟩ p

theorem step_transition {b b' : Boot K} {st : Stage K} {p : Option String}
    (h : step kc inCommittee b st = some (b', p)) : Transition kc inCommittee b st b' p := by
  cases st with
  | event e =>
    cases hs : e.isSpawn
    · obtain ⟨s', hs', rfl⟩ := (step_event_eq_some kc inCommittee hs).mp h
      exact .event hs (Node.step_transition kc inCommittee hs')
    · cases e <;> cases hs
      cases h
      exact .clients _ _
  | resume i =>
    simp only [step, Option.map_eq_some'] at h
    obtain ⟨⟨vid, name⟩, hi, h⟩ := h
    cases h
    exact .resume hi

/-- The states some run from `init` reaches when a stage is taken only where `allowed`
lets it: `fun _ _ => True` for every interleaving, `Serial` for the discipline. -/
inductive Reachable (allowed : Boot K → Stage K → Prop) : Boot K → Prop where
  | init : Reachable allowed init
  | step {b b' : Boot K} {st : Stage K} {p : Option String} :
      Reachable allowed b → step kc inCommittee b st = some (b', p) → allowed b st →
        Reachable allowed b'

/-- Replay a list of stages from `b`; `none` if one of them cannot happen. -/
def run (b : Boot K) : List (Stage K) → Option (Boot K)
  | [] => some b
  | st :: sts => (step kc inCommittee b st).bind fun r => run r.1 sts

theorem reachable_of_run : ∀ {b b' : Boot K} (sts : List (Stage K)),
    Reachable kc inCommittee (fun _ _ => True) b → run kc inCommittee b sts = some b' →
      Reachable kc inCommittee (fun _ _ => True) b'
  | _, _, [], hb, h => by cases h; exact hb
  | b, b', st :: sts, hb, h => by
    simp only [run, Option.bind_eq_some] at h
    obtain ⟨⟨b₁, p⟩, h₁, h⟩ := h
    exact reachable_of_run sts (Reachable.step hb h₁ trivial) h

/-! ## The atomic process is a special case -/

theorem serial_event {b : Boot K} {e : Event K} (he : e.isSpawn = false) :
    b.Serial (.event e) := by
  cases e <;> first | exact trivial | cases he

/-- Every state the atomic process reaches is reached here, under the discipline and with
no spawn in flight: a spawn followed at once by its resumption is `Node.step`'s spawn. -/
theorem reachable_boot {s : Node K} (h : Node.Reachable kc inCommittee s) :
    Reachable kc inCommittee Serial ⟨s, fun _ => none⟩ := by
  induction h with
  | init => exact .init
  | @step s s' e p _ hstep ih =>
    cases hs : e.isSpawn
    · exact .step ih ((step_event_eq_some kc inCommittee hs).mpr ⟨s', hstep, rfl⟩)
        (serial_event hs)
    · cases e with
      | spawn vid name =>
        cases Node.step_transition kc inCommittee hstep
        have h₁ : step kc inCommittee ⟨s, fun _ => none⟩ (.event (.spawn vid name)) =
            some (_, none) := rfl
        have h₂ : step kc inCommittee ⟨s.handleClientsTransactions vid,
            Function.update (fun _ => none) s.spawned (some (vid, name))⟩ (.resume s.spawned) =
            some (⟨s.spawnMempool vid, fun _ => none⟩, if inCommittee name then none
              else some "Our public key is not in the committee") := by
          simp only [step, Function.update_same, Option.map_some', Function.update_idem,
            Node.spawnMempool_eq]
          congr
          funext j
          by_cases hj : j = s.spawned <;> simp [hj]
        exact .step (.step ih h₁ fun _ _ h => nomatch h) h₂ trivial
      | _ => cases hs

/-- A spawn of the atomic process, replayed with its inserts split. -/
theorem atomic_spawn_replays_example :
    ∃ s : Node Digest, Node.Reachable digestCodec (fun _ => true) s ∧
      Reachable digestCodec (fun _ => true) Serial ⟨s, fun _ => none⟩ :=
  have hr := Node.reachable_of_run digestCodec (fun _ => true) [.spawn 0 zeroKey] .init rfl
  ⟨_, hr, reachable_boot digestCodec (fun _ => true) hr⟩

/-! ## Every mempool serves one id, under any scheduling -/

section WellFormed

variable {b : Boot K}

theorem not_serves_init (vid i : Nat) : ¬(init : Boot K).Serves vid i := by
  simp [Serves, init, Node.init]

theorem init_wellFormed : (init : Boot K).WellFormed :=
  ⟨fun _ => by simp [init, Node.init], fun _ _ h => absurd h (not_serves_init _ _),
    fun _ _ _ h => absurd h (not_serves_init _ _)⟩

/-- After a spawn's first insert, a mempool serves an id only if it is the new mempool and
the id the spawn's, or it served that id before. -/
theorem serves_clients {vid v j : Nat} {name : K}
    (h : (⟨b.node.handleClientsTransactions vid,
      Function.update b.inFlight b.node.spawned (some (vid, name))⟩ : Boot K).Serves v j) :
    (v = vid ∧ j = b.node.spawned) ∨ b.Serves v j := by
  simp only [Serves, Node.handleClientsTransactions, Function.update_apply] at h
  rcases h with h | h | ⟨name', h⟩
  · split at h
    · cases h
      exact .inl ⟨‹_›, rfl⟩
    · exact .inr (.inl h)
  · exact .inr (.inr (.inl h))
  · split at h
    · cases h
      exact .inl ⟨rfl, ‹_›⟩
    · exact .inr (.inr (.inr ⟨name', h⟩))

/-- After a spawn resumes, a mempool serves an id only if it served it before: the
mempool handler map now names the spawn's mempool, which served the id while in flight. -/
theorem serves_resume {i vid v j : Nat} {name : K} (hi : b.inFlight i = some (vid, name))
    (h : (⟨b.node.handleMempoolMessages vid i, Function.update b.inFlight i none⟩ :
      Boot K).Serves v j) : b.Serves v j := by
  simp only [Serves, Node.handleMempoolMessages, Function.update_apply] at h
  rcases h with h | h | ⟨name', h⟩
  · exact .inl h
  · split at h
    · cases h
      subst v
      exact .inr (.inr ⟨name, hi⟩)
    · exact .inr (.inl h)
  · split at h
    · cases h
    · exact .inr (.inr ⟨name', h⟩)

theorem clients_wellFormed {vid : Nat} (name : K) (hb : b.WellFormed) :
    (⟨b.node.handleClientsTransactions vid,
      Function.update b.inFlight b.node.spawned (some (vid, name))⟩ : Boot K).WellFormed where
  instances_isSome j := by
    simp only [Node.handleClientsTransactions, Function.update_apply]
    split
    · simp [*]
    · rw [hb.instances_isSome j]
      omega
  spawned v j h := by
    rcases serves_clients h with ⟨-, rfl⟩ | h
    · exact Nat.lt_succ_self _
    · exact Nat.lt_succ_of_lt (hb.spawned v j h)
  owner v v' j h h' := by
    rcases serves_clients h with ⟨rfl, rfl⟩ | hs <;>
      rcases serves_clients h' with ⟨rfl, hj⟩ | hs'
    · rfl
    · exact absurd (hb.spawned _ _ hs') (Nat.lt_irrefl _)
    · exact absurd (hj ▸ hb.spawned _ _ hs) (Nat.lt_irrefl _)
    · exact hb.owner _ _ _ hs hs'

theorem resume_wellFormed {i vid : Nat} {name : K} (hb : b.WellFormed)
    (hi : b.inFlight i = some (vid, name)) :
    (⟨b.node.handleMempoolMessages vid i, Function.update b.inFlight i none⟩ :
      Boot K).WellFormed :=
  ⟨hb.instances_isSome, fun v j h => hb.spawned v j (serves_resume hi h),
    fun v v' j h h' => hb.owner v v' j (serves_resume hi h) (serves_resume hi h')⟩

theorem isSome_setInstance (s : Node K) {i : Nat} {inst inst' : Instance K}
    (hi : s.instances i = some inst) (j : Nat) :
    ((s.setInstance i inst').instances j).isSome = (s.instances j).isSome := by
  by_cases hj : j = i <;> simp [hj, hi]

/-- A step of the process other than a spawn leaves the handler maps and the count of
mempools as they were, and rewrites mempools only where there is one. -/
theorem event_frame {s s' : Node K} {e : Event K} {p : Option String}
    (he : e.isSpawn = false) (h : Node.Transition kc inCommittee s e s' p) :
    s'.txHandlers = s.txHandlers ∧ s'.mempoolHandlers = s.mempoolHandlers ∧
      s'.spawned = s.spawned ∧ ∀ i, (s'.instances i).isSome = (s.instances i).isSome := by
  cases h with
  | spawn => cases he
  | exit hi => exact ⟨rfl, rfl, rfl, isSome_setInstance s hi⟩
  | stop t hi hexit => exact ⟨rfl, rfl, rfl, isSome_setInstance s hi⟩
  | take hi ht => exact ⟨rfl, rfl, rfl, isSome_setInstance s hi⟩
  | clientTx hvid hi hd => exact ⟨rfl, rfl, rfl, isSome_setInstance s hi⟩
  | clientTxPanic hvid hi hd => exact ⟨rfl, rfl, rfl, fun _ => rfl⟩
  | peerFrame hvid hi hd => exact ⟨rfl, rfl, rfl, isSome_setInstance s hi⟩
  | peerFramePanic hvid hi hd => exact ⟨rfl, rfl, rfl, fun _ => rfl⟩

/-- An event other than a spawn leaves who serves whom as it was. -/
theorem event_serves {e : Event K} {s' : Node K} {p : Option String} (he : e.isSpawn = false)
    (h : Node.Transition kc inCommittee b.node e s' p) (vid i : Nat) :
    (⟨s', b.inFlight⟩ : Boot K).Serves vid i ↔ b.Serves vid i := by
  obtain ⟨htx, hm, -⟩ := event_frame kc inCommittee he h
  simp only [Serves, htx, hm]

theorem event_wellFormed {e : Event K} {s' : Node K} {p : Option String} (hb : b.WellFormed)
    (he : e.isSpawn = false) (h : Node.Transition kc inCommittee b.node e s' p) :
    (⟨s', b.inFlight⟩ : Boot K).WellFormed := by
  obtain ⟨-, -, hn, hsome⟩ := event_frame kc inCommittee he h
  have hs := event_serves kc inCommittee he h
  refine ⟨fun i => ?_, fun v j h => ?_, fun v v' j h h' =>
    hb.owner v v' j ((hs v j).mp h) ((hs v' j).mp h')⟩
  · rw [hsome, hn]
    exact hb.instances_isSome i
  · rw [hn]
    exact hb.spawned v j ((hs v j).mp h)

theorem step_wellFormed {b' : Boot K} {st : Stage K} {p : Option String} (hb : b.WellFormed)
    (h : step kc inCommittee b st = some (b', p)) : b'.WellFormed := by
  cases step_transition kc inCommittee h with
  | clients vid name => exact clients_wellFormed name hb
  | resume hi => exact resume_wellFormed hb hi
  | event he ht => exact event_wellFormed kc inCommittee hb he ht

/-- Under any scheduling, every reachable state keeps its bookkeeping. -/
theorem reachable_wellFormed {allowed : Boot K → Stage K → Prop}
    (h : Reachable kc inCommittee allowed b) : b.WellFormed := by
  induction h with
  | init => exact init_wellFormed
  | step _ hstep _ ih => exact step_wellFormed kc inCommittee ih hstep

end WellFormed

/-! ## The lifecycle invariant does not need atomic inserts -/

theorem step_inv {b b' : Boot K} {st : Stage K} {p : Option String} (hb : b.node.Inv kc)
    (h : step kc inCommittee b st = some (b', p)) : b'.node.Inv kc := by
  cases step_transition kc inCommittee h with
  | clients vid name => exact Node.handleClientsTransactions_inv kc hb vid
  | resume hi => exact hb
  | event he ht => exact Node.transition_inv kc inCommittee hb ht

theorem reachable_inv {allowed : Boot K → Stage K → Prop} {b : Boot K}
    (h : Reachable kc inCommittee allowed b) : b.node.Inv kc := by
  induction h with
  | init => exact Node.init_inv kc
  | step _ hstep _ ih => exact step_inv kc inCommittee ih hstep

/-! ## The two maps around a spawn -/

/-- What every state reached under the discipline satisfies. -/
structure SerialInv (b : Boot K) : Prop where
  wf : b.WellFormed
  window : ∀ vid, b.Window vid

section SerialInv

variable {b : Boot K}

theorem init_serialInv : (init : Boot K).SerialInv :=
  ⟨init_wellFormed, fun _ => .inr ⟨fun _ _ h => (nomatch h), rfl⟩⟩

theorem window_congr {b' : Boot K} {vid : Nat} (h : b.Window vid)
    (hf : ∀ j name, b'.inFlight j = some (vid, name) ↔ b.inFlight j = some (vid, name))
    (htx : b'.node.txHandlers vid = b.node.txHandlers vid)
    (hm : b'.node.mempoolHandlers vid = b.node.mempoolHandlers vid) : b'.Window vid := by
  simpa only [Window, Idle, ne_eq, hf, htx, hm] using h

/-- A spawn under an idle `vid` opens its window: the transaction handler map moves to the
new mempool, the mempool handler map stays where it was. -/
theorem clients_serialInv {vid : Nat} (name : K) (hb : b.SerialInv) (hidle : b.Idle vid) :
    (⟨b.node.handleClientsTransactions vid,
      Function.update b.inFlight b.node.spawned (some (vid, name))⟩ : Boot K).SerialInv where
  wf := clients_wellFormed name hb.wf
  window v := by
    by_cases hv : v = vid
    · subst hv
      refine .inl ⟨b.node.spawned, name, by simp, by simp [Node.handleClientsTransactions],
        fun hm => Nat.lt_irrefl _ (hb.wf.spawned v _ (.inr (.inl hm))), fun j name' hj => ?_⟩
      simp only [Function.update_apply] at hj
      split at hj
      · assumption
      · exact absurd hj (hidle j name')
    · refine window_congr (hb.window v) (fun j name' => ?_) (Function.update_noteq hv _ _) rfl
      simp only [Function.update_apply]
      split
      · subst j
        simp only [Option.some.injEq, Prod.mk.injEq, Ne.symm hv, false_and, false_iff]
        exact fun h => Nat.lt_irrefl _ (hb.wf.spawned v _ (.inr (.inr ⟨name', h⟩)))
      · rfl

/-- A resumed spawn closes its window: the mempool handler map catches up with the
transaction handler map. -/
theorem resume_serialInv {i vid : Nat} {name : K} (hb : b.SerialInv)
    (hi : b.inFlight i = some (vid, name)) :
    (⟨b.node.handleMempoolMessages vid i, Function.update b.inFlight i none⟩ :
      Boot K).SerialInv where
  wf := resume_wellFormed hb.wf hi
  window v := by
    by_cases hv : v = vid
    · subst hv
      rcases hb.window v with ⟨i₀, -, -, htx, -, huniq⟩ | ⟨hidle, -⟩
      · obtain rfl := huniq i name hi
        refine .inr ⟨fun j name' hj => ?_, by simp [Node.handleMempoolMessages, htx]⟩
        simp only [Function.update_apply] at hj
        split at hj
        · cases hj
        · exact ‹¬j = i› (huniq j name' hj)
      · exact absurd hi (hidle i name)
    · refine window_congr (hb.window v) (fun j name' => ?_) rfl (Function.update_noteq hv _ _)
      simp only [Function.update_apply]
      split
      · subst j
        simp [hi, Ne.symm hv]
      · rfl

/-- An event other than a spawn leaves the maps and the spawns in flight as they were. -/
theorem event_serialInv {e : Event K} {s' : Node K} {p : Option String} (hb : b.SerialInv)
    (he : e.isSpawn = false) (h : Node.Transition kc inCommittee b.node e s' p) :
    (⟨s', b.inFlight⟩ : Boot K).SerialInv := by
  obtain ⟨htx, hm, -⟩ := event_frame kc inCommittee he h
  exact ⟨event_wellFormed kc inCommittee hb.wf he h, fun vid =>
    window_congr (hb.window vid) (fun _ _ => Iff.rfl) (by rw [htx]) (by rw [hm])⟩

theorem step_serialInv {b' : Boot K} {st : Stage K} {p : Option String} (hb : b.SerialInv)
    (hs : b.Serial st) (h : step kc inCommittee b st = some (b', p)) : b'.SerialInv := by
  cases step_transition kc inCommittee h with
  | clients vid name => exact clients_serialInv name hb hs
  | resume hi => exact resume_serialInv hb hi
  | event he ht => exact event_serialInv kc inCommittee hb he ht

theorem reachable_serialInv (h : Reachable kc inCommittee Serial b) : b.SerialInv := by
  induction h with
  | init => exact init_serialInv
  | step _ hstep hs ih => exact step_serialInv kc inCommittee ih hs hstep

end SerialInv

/-- When no spawn under a `validator_id` starts while another under that id is in flight,
every reachable state is in one of two cases for every id: the spawn that made mempool `i`
is the one in flight under it, client transactions for the id reach `i` and peer frames do
not reach `i` yet; or no spawn under it is in flight and both kinds of delivery reach the
same mempool. -/
theorem serial_window {b : Boot K} (hr : Reachable kc inCommittee Serial b) (vid : Nat) :
    b.Window vid :=
  (reachable_serialInv kc inCommittee hr).window vid

/-- A second spawn under `validator_id` 0, in flight after the first has resumed: client
transactions already reach mempool 1, peer frames still reach mempool 0. -/
theorem respawn_window_example :
    ∃ b : Boot Digest, Reachable digestCodec (fun _ => true) Serial b ∧
      b.node.txHandlers 0 = some 1 ∧ b.node.mempoolHandlers 0 = some 0 ∧ b.Window 0 :=
  have hr : Reachable digestCodec (fun _ => true) Serial _ :=
    .step (.step (.step .init
        (show step digestCodec (fun _ => true) init (.event (.spawn 0 zeroKey)) =
          some (_, none) from rfl) fun _ _ h => nomatch h)
      (show step digestCodec (fun _ => true) _ (.resume 0) = some (_, none) from rfl) trivial)
      (show step digestCodec (fun _ => true) _ (.event (.spawn 0 zeroKey)) = some (_, none)
        from rfl)
      fun j name h => by
        simp only [init, Node.init, Function.update_apply] at h
        split_ifs at h
  ⟨_, hr, rfl, rfl, serial_window digestCodec (fun _ => true) hr 0⟩

/-- When no spawn under a `validator_id` starts while another under that id is in flight,
every reachable state with no spawn in flight has the bookkeeping of the atomic process:
both handler maps send every id to the same mempool. -/
theorem idle_wellFormed {b : Boot K} (hr : Reachable kc inCommittee Serial b)
    (hidle : ∀ i, b.inFlight i = none) : b.node.WellFormed := by
  have hb := reachable_serialInv kc inCommittee hr
  refine ⟨hb.wf.instances_isSome, funext fun vid => ?_,
    fun vid i h => hb.wf.spawned vid i (.inl h),
    fun vid vid' i h h' => hb.wf.owner vid vid' i (.inl h) (.inl h')⟩
  rcases hb.window vid with ⟨i, _, hi, -⟩ | ⟨-, hm⟩
  · rw [hidle i] at hi
    cases hi
  · exact hm

/-- A spawn under `validator_id` 0 that has resumed: nothing is in flight. -/
theorem booted_example :
    ∃ b : Boot Digest, Reachable digestCodec (fun _ => true) Serial b ∧
      (∀ i, b.inFlight i = none) ∧ b.node.WellFormed :=
  have hr : Reachable digestCodec (fun _ => true) Serial _ :=
    .step (.step .init
        (show step digestCodec (fun _ => true) init (.event (.spawn 0 zeroKey)) =
          some (_, none) from rfl) fun _ _ h => nomatch h)
      (show step digestCodec (fun _ => true) _ (.resume 0) = some (_, none) from rfl) trivial
  have hidle : ∀ i, (Function.update (Function.update (fun _ => none) 0 (some (0, zeroKey))) 0
      none : Nat → Option (Nat × Digest)) i = none :=
    fun i => by by_cases hi : i = 0 <;> simp [hi]
  ⟨_, hr, hidle, idle_wellFormed digestCodec (fun _ => true) hr hidle⟩

/-- Without the discipline the maps can split for good: two spawns under `validator_id` 0
whose inserts interleave, the second resuming first, leave client transactions going to
mempool 1 and peer frames to mempool 0, with no spawn in flight. -/
theorem overlapping_spawns_split_maps :
    ∃ b : Boot Digest, Reachable digestCodec (fun _ => true) (fun _ _ => True) b ∧
      (∀ i, b.inFlight i = none) ∧ b.node.txHandlers 0 = some 1 ∧
      b.node.mempoolHandlers 0 = some 0 := by
  refine ⟨_, reachable_of_run digestCodec (fun _ => true)
    [.event (.spawn 0 zeroKey), .event (.spawn 0 zeroKey), .resume 1, .resume 0] .init rfl,
    fun i => ?_, rfl, rfl⟩
  simp only [init, Node.init, Node.handleClientsTransactions, Function.update_apply]
  split_ifs <;> simp_all

end Boot

end SafeStake.Mempool
