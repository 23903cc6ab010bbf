import GpuPassthrough.Proofs.Session.Rules
import GpuPassthrough.Session.Schedule

/-!
# Sessions Come to Rest

Every move of a session costs something of the potential of the hub, so sessions left to themselves
come to rest within as many moves.

## Main results

* `potential_advance`: a move lowers the potential.
* `isQuiet_settle`: after settling no session can move.
-/

namespace GpuPassthrough.Hub

/-- Changing one member of a list changes the sum by what the member gained. -/
theorem foldr_add_modify {α : Type} (f : α → Nat) (g : α → α) :
    ∀ {xs : List α} {i : Nat} {x : α}, xs[i]? = some x →
      (xs.modify i g).foldr (fun x sum => f x + sum) 0 + f x =
        xs.foldr (fun x sum => f x + sum) 0 + f (g x)
  | [], i, x, h => by simp at h
  | y :: ys, 0, x, h => by
    simp only [List.getElem?_cons_zero, Option.some.injEq] at h
    subst h
    simp only [List.modify_zero_cons, List.foldr_cons]
    omega
  | y :: ys, i + 1, x, h => by
    have hy : ys[i]? = some x := by simpa using h
    have ih := foldr_add_modify f g hy
    simp only [List.modify_succ_cons, List.foldr_cons]
    omega

/-- Entering a lower phase, with no more in the queue, lowers the potential. -/
theorem potential_update_lt {h h' : Hub} {i : Nat} {s : Session} {g : Session → Session}
    (hs : h.sessions[i]? = some s) (hsessions : h'.sessions = h.sessions.modify i g)
    (hrank : (g s).phase.rank + (if h'.queue.isSome then 3 else 0) <
      s.phase.rank + (if h.queue.isSome then 3 else 0)) : h'.potential < h.potential := by
  have hsum := foldr_add_modify (fun s : Session => s.phase.rank) g hs
  simp only [potential, hsessions]
  omega

/-- Entering a lower phase lowers the potential. -/
theorem potential_enter_lt {h h' : Hub} {i : Nat} {s : Session} {g : Session → Session}
    (hs : h.sessions[i]? = some s) (hsessions : h'.sessions = h.sessions.modify i g)
    (hqueue : h'.queue = h.queue) (hrank : (g s).phase.rank < s.phase.rank) :
    h'.potential < h.potential :=
  potential_update_lt hs hsessions (by rw [hqueue]; exact Nat.add_lt_add_right hrank _)

/-- A move lowers the potential. -/
theorem potential_advance {h h' : Hub} {i : Nat} (hadv : h.advance? i = some h') :
    h'.potential < h.potential := by
  obtain ⟨s, hs, hadv⟩ := advances_of_advance? hadv
  cases hadv with
  | leave hend =>
    refine potential_enter_lt hs rfl rfl ?_
    cases hphase : s.phase <;>
      simp_all [MayEnd, Session.enter, SessionPhase.rank]
  | greet hphase =>
    exact potential_enter_lt hs rfl rfl
      (by simp [hphase, Session.enter, Session.send, SessionPhase.rank])
  | lineUp hphase | takeCharge hphase | apply e hphase =>
    exact potential_enter_lt hs rfl rfl (by simp [hphase, Session.enter, SessionPhase.rank])
  | take e hphase hcalm hqueue =>
    exact potential_update_lt hs rfl (by simp [hphase, hqueue, Session.enter, SessionPhase.rank])
  | deliver list hphase =>
    exact potential_enter_lt hs rfl rfl
      (by simp [hphase, Session.enter, Session.send, SessionPhase.rank])

/-- With as many moves as the potential, no session can move in the end. -/
theorem isQuiet_settleWithin {moves : Nat} {h : Hub} (hle : h.potential ≤ moves) :
    (settleWithin moves h).IsQuiet := by
  induction moves generalizing h with
  | zero =>
    intro i
    cases hadv : h.advance? i with
    | none => exact hadv
    | some h' => have := potential_advance hadv; omega
  | succ moves ih =>
    rw [settleWithin]
    split
    · next hnone => exact isQuiet_of_next?_eq_none hnone
    · next h' hsome =>
      obtain ⟨i, -, hadv⟩ := List.exists_of_findSome?_eq_some hsome
      have := potential_advance hadv
      exact ih (by omega)

/-- After settling no session can move. -/
theorem isQuiet_settle (h : Hub) : h.settle.IsQuiet :=
  isQuiet_settleWithin (Nat.le_refl _)

end GpuPassthrough.Hub
