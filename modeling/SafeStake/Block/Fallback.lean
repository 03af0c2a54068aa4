import Mathlib

/-!
# Beacon-node fallback and the `BlockError` it folds into

`BlockService::publish_block` (`src/validation/block_service.rs`) runs its
fetch-sign-post closure through `BeaconNodeFallback::first_success` and turns the
collected failures into one `BlockError` with `impl From<Errors<BlockError>>`. Both
decide what a publication task can do next, so they are modelled here once, for any
closure.

`first_success` tries candidates in its order, returns the first `Ok`, and otherwise
keeps going, recording `(name, RequestFailed(e))` for a candidate the closure failed on
and `(name, Unavailable(..))` for one it skipped (`firstSuccess_error`). An
`Irrecoverable` failure does not stop it. The conversion only asks whether some
recorded failure is `Irrecoverable`, so its result is always `Recoverable` or
`Irrecoverable` and never one of the two not-leader variants (`ofErrors_cases`).

Mirroring notes:
- The fallback module is not in the source, and the spec does not describe it.
  `firstSuccessAux` follows `first_success`'s contract as `publish_block` uses it:
  candidates are tried one after another, the first `Ok` is returned, and every failure
  is collected; the candidate order is an input, so the
  theorems hold for whatever order the synced, unsynced and retried passes produce, a
  candidate skipped on one pass and tried on a later one included.
- `e.to_string()` is the `Display` of `Errors`, which lives in that module too: `render`.
- The closure's requests are returned as a log `List L`, so that callers can count them.
-/

namespace SafeStake.Block

/-- `BlockError`: what a publication attempt reports. -/
inductive BlockError where
  | recoverable (msg : String)
  | irrecoverable (msg : String)
  | randaoNotLeader
  | signBlockNotLeader
deriving DecidableEq

/-- `beacon_node_fallback::Error<E>`: a candidate skipped as not ready, or the error the
closure returned on it. Nothing here reads the candidate error, so it is left out. -/
inductive FallbackError (E : Type) where
  | unavailable
  | requestFailed (e : E)
deriving DecidableEq

/-- `Errors<E>`: every candidate's failure with the candidate's name, in the order met. -/
structure Errors (E : Type) where
  errs : List (String × FallbackError E)

/-- A candidate as a pass of `first_success` meets it: skipped, or tried with the
inputs `R` that the closure will see on it. -/
inductive Candidate (R : Type) where
  | unavailable (name : String)
  | tried (name : String) (inputs : R)

section FirstSuccess

variable {R O E L : Type} (func : String → R → Except E O × List L)

/-- `BeaconNodeFallback::first_success`, as `publish_block` relies on it, from the error
list `errors` collected so far. Returns the first `Ok`, or every failure; the log is the
closure's requests, in order. -/
def firstSuccessAux (errors : List (String × FallbackError E)) :
    List (Candidate R) → Except (Errors E) O × List L
  | [] => (.error ⟨errors⟩, [])
  | .unavailable name :: cs => firstSuccessAux (errors ++ [(name, .unavailable)]) cs
  | .tried name r :: cs =>
    match func name r with
    | (.ok o, log) => (.ok o, log)
    | (.error e, log) =>
      let rest := firstSuccessAux (errors ++ [(name, .requestFailed e)]) cs
      (rest.1, log ++ rest.2)

/-- `first_success`, starting with no errors. -/
def firstSuccess (cs : List (Candidate R)) : Except (Errors E) O × List L :=
  firstSuccessAux func [] cs

/-- The entries `first_success` records for these candidates when none succeeds: the
skip of each candidate it did not try, the closure's error on each one it tried. -/
def failures (cs : List (Candidate R)) : List (String × FallbackError E) :=
  cs.filterMap fun c => match c with
    | .unavailable name => some (name, .unavailable)
    | .tried name r => match (func name r).1 with
      | .ok _ => none
      | .error e => some (name, .requestFailed e)

/-- A failed `first_success` tried every candidate: every tried one failed, and the
errors are exactly their failures, in order. -/
theorem firstSuccessAux_error :
    ∀ (errors : List (String × FallbackError E)) (cs : List (Candidate R)) (es : Errors E),
      (firstSuccessAux func errors cs).1 = .error es →
      (∀ name r, Candidate.tried name r ∈ cs → ∃ e, (func name r).1 = .error e) ∧
        es.errs = errors ++ failures func cs
  | errors, [], es, h => by
    cases h
    simp [failures]
  | errors, .unavailable name :: cs, es, h => by
    obtain ⟨hall, heq⟩ := firstSuccessAux_error _ cs es h
    refine ⟨fun n r hm => hall n r ?_, ?_⟩
    · simpa using hm
    · simp [heq, failures]
  | errors, .tried name r :: cs, es, h => by
    simp only [firstSuccessAux] at h
    split at h
    · cases h
    · rename_i e log hf
      obtain ⟨hall, heq⟩ := firstSuccessAux_error _ cs es h
      refine ⟨fun n r' hm => ?_, ?_⟩
      · rcases List.mem_cons.mp hm with hm | hm
        · cases hm
          exact ⟨e, by rw [hf]⟩
        · exact hall n r' hm
      · simp [heq, failures, hf]

theorem firstSuccess_error {cs : List (Candidate R)} {es : Errors E}
    (h : (firstSuccess func cs).1 = .error es) :
    (∀ name r, Candidate.tried name r ∈ cs → ∃ e, (func name r).1 = .error e) ∧
      es.errs = failures func cs := by
  simpa using firstSuccessAux_error func [] cs es h

theorem mem_failures {cs : List (Candidate R)} {name : String} {r : R} {e : E}
    (hm : Candidate.tried name r ∈ cs) (he : (func name r).1 = .error e) :
    (name, FallbackError.requestFailed e) ∈ failures func cs :=
  List.mem_filterMap.mpr ⟨_, hm, by simp [he]⟩

/-- Every request in a `first_success` log was made by the closure on a tried candidate. -/
theorem mem_firstSuccessAux_log {l : L} :
    ∀ (errors : List (String × FallbackError E)) (cs : List (Candidate R)),
      l ∈ (firstSuccessAux func errors cs).2 →
      ∃ name r, Candidate.tried name r ∈ cs ∧ l ∈ (func name r).2
  | _, [], h => by cases h
  | errors, .unavailable _ :: cs, h => by
    obtain ⟨name, r, hm, hl⟩ := mem_firstSuccessAux_log _ cs h
    exact ⟨name, r, List.mem_cons_of_mem _ hm, hl⟩
  | errors, .tried name r :: cs, h => by
    simp only [firstSuccessAux] at h
    split at h
    · rename_i o log hf
      exact ⟨name, r, List.mem_cons_self _ _, by rw [hf]; exact h⟩
    · rename_i e log hf
      rcases List.mem_append.mp h with h | h
      · exact ⟨name, r, List.mem_cons_self _ _, by rw [hf]; exact h⟩
      · obtain ⟨n, r', hm, hl⟩ := mem_firstSuccessAux_log _ cs h
        exact ⟨n, r', List.mem_cons_of_mem _ hm, hl⟩

/-- A balance between two counts of the log that every run of the closure keeps, the
successful run counting one more on the left, holds for the whole `first_success`. -/
theorem firstSuccessAux_countP_balance (p q : L → Bool)
    (h : ∀ name r, (func name r).2.countP p =
      (func name r).2.countP q + if (func name r).1.toBool then 1 else 0) :
    ∀ (errors : List (String × FallbackError E)) (cs : List (Candidate R)),
      (firstSuccessAux func errors cs).2.countP p =
        (firstSuccessAux func errors cs).2.countP q +
          if (firstSuccessAux func errors cs).1.toBool then 1 else 0
  | _, [] => rfl
  | errors, .unavailable _ :: cs => firstSuccessAux_countP_balance p q h _ cs
  | errors, .tried name r :: cs => by
    have hr := h name r
    cases hf : func name r with
    | mk res log =>
      rw [hf] at hr
      cases res with
      | ok o => simpa [firstSuccessAux, hf] using hr
      | error e =>
        have ih := firstSuccessAux_countP_balance p q h (errors ++ [(name, .requestFailed e)]) cs
        simp only [Except.toBool, Bool.false_eq_true, if_false, Nat.add_zero] at hr
        simp only [firstSuccessAux, hf, List.countP_append, hr, ih]
        omega

/-- A request that the closure only makes on runs ending in a `bad` error never appears
in the log of a failed `first_success` that recorded no `bad` failure. -/
theorem firstSuccess_countP_eq_zero (p : L → Bool) (bad : FallbackError E → Bool)
    (hbad : ∀ name r e, (func name r).1 = .error e → 0 < (func name r).2.countP p →
      bad (.requestFailed e) = true)
    {cs : List (Candidate R)} {es : Errors E} (h : (firstSuccess func cs).1 = .error es)
    (hes : ∀ q ∈ es.errs, bad q.2 = false) :
    (firstSuccess func cs).2.countP p = 0 := by
  obtain ⟨hfail, herrs⟩ := firstSuccess_error func h
  refine List.countP_eq_zero.mpr fun l hl hp => ?_
  obtain ⟨name, r, hm, hlr⟩ := mem_firstSuccessAux_log func [] cs hl
  obtain ⟨e, he⟩ := hfail name r hm
  have hnot : bad (.requestFailed e) = false := hes _ (herrs ▸ mem_failures func hm he)
  exact Bool.noConfusion
    ((hbad name r e he (List.countP_pos_iff.mpr ⟨l, hlr, hp⟩)).symm.trans hnot)

end FirstSuccess

/-! ## `impl From<Errors<BlockError>> for BlockError` -/

/-- The `matches!` test: a `RequestFailed(BlockError::Irrecoverable(_))` entry. -/
def FallbackError.isIrrecoverable : FallbackError BlockError → Bool
  | .requestFailed (.irrecoverable _) => true
  | _ => false

/-- `impl From<Errors<BlockError>> for BlockError`: `Irrecoverable` as soon as one
recorded failure is, `Recoverable` otherwise, with the rendered errors as message. -/
def BlockError.ofErrors (render : Errors BlockError → String) (e : Errors BlockError) :
    BlockError :=
  if e.errs.any fun p => p.2.isIrrecoverable then .irrecoverable (render e)
  else .recoverable (render e)

/-- The conversion yields `Irrecoverable` exactly when some entry is an `Irrecoverable`
request failure, and `Recoverable` otherwise; never a not-leader variant. -/
theorem ofErrors_cases (render : Errors BlockError → String) (e : Errors BlockError) :
    (BlockError.ofErrors render e = .irrecoverable (render e) ∧
      ∃ p ∈ e.errs, p.2.isIrrecoverable = true) ∨
    (BlockError.ofErrors render e = .recoverable (render e) ∧
      ∀ p ∈ e.errs, p.2.isIrrecoverable = false) := by
  unfold BlockError.ofErrors
  split
  · rename_i h
    exact .inl ⟨rfl, List.any_eq_true.mp h⟩
  · rename_i h
    exact .inr ⟨rfl, fun p hp =>
      Bool.eq_false_iff.mpr (List.any_eq_false.mp (Bool.eq_false_iff.mpr h) p hp)⟩

end SafeStake.Block
